import RuleFile.Proofs.RuleLayouts
import RuleFile.Proofs.Streaming
/-!
# What is made of what is read

The grammar makes terms of three shapes, and takes their names from identifiers: if these are such that `P`, so are all
names of what is open (`State.IsRead`) and of the rules that are completed.  The identifiers of a text are names, so
every rule that is read from a text can be written (`isWritable_of_parseText`).
-/
namespace RuleFile

open Grammar

/-- The rules that the grammar makes of names such that `P`. -/
abbrev Rule.IsRead (P : String → Prop) (rule : Rule) : Prop := rule.MadeOf (Term.IsRead P)

theorem Rule.isRead_ofTarget {P : String → Prop} {target : Term} (h : target.IsRead P) :
    (Rule.ofTarget target).IsRead P :=
  ⟨h, fun _ ht => (List.not_mem_nil ht).elim, fun _ hl => (List.not_mem_nil hl).elim, rfl⟩

namespace Grammar

open Move

/-! ## What is open -/

structure OpenLine.IsRead (P : String → Prop) (l : OpenLine) : Prop where
  rule  : l.rule.IsRead P
  terms : ∀ t ∈ l.terms, t.IsRead P

def Slot.IsRead (P : String → Prop) : Slot → Prop
  | front _ => True
  | line l  => l.IsRead P

def Reference.IsRead (P : String → Prop) : Reference → Prop
  | named name => P name
  | _          => True

/-- **What is open has been made of names such that `P`.** -/
def State.IsRead (P : String → Prop) : State → Prop
  | reference slot seen => slot.IsRead P ∧ seen.IsRead P
  | front term _        => term.IsRead P
  | line l              => l.IsRead P
  | rule r              => r.IsRead P
  | _                   => True

/-- The rules that a move completes, and what is open behind it. -/
structure Move.IsRead (P : String → Prop) (m : Move State) : Prop where
  rules : ∀ r ∈ Note.rules m.notes, r.IsRead P
  state : ∀ s, m.result = .ok s → s.IsRead P

section

variable {P : String → Prop} {settings : Settings} {token : Token}

theorem OpenLine.IsRead.add {l : OpenLine} (h : l.IsRead P) {term : Term} (hterm : term.IsRead P) :
    (l.add term).IsRead P := by
  refine ⟨h.rule, fun t ht => ?_⟩
  rcases List.mem_append.1 ht with ht | ht
  · exact h.terms t ht
  · rwa [List.mem_singleton.1 ht]

theorem OpenLine.IsRead.close {l : OpenLine} (h : l.IsRead P) : l.close.IsRead P := by
  unfold OpenLine.close
  split
  · refine ⟨h.rule.target, h.rule.prerequisites, fun line hline => ?_, h.rule.expanded⟩
    rcases List.mem_append.1 hline with hline | hline
    · exact h.rule.recipe line hline
    · rw [List.mem_singleton.1 hline]
      exact h.terms
  · exact ⟨h.rule.target, h.terms, h.rule.recipe, h.rule.expanded⟩

theorem Slot.IsRead.accept {slot : Slot} (h : slot.IsRead P) {term : Term} (hterm : term.IsRead P) :
    (slot.accept term).IsRead P := by
  cases slot with
  | front start => exact hterm
  | line l      => exact OpenLine.IsRead.add h hterm

/-! ## One token -/

theorem isRead_goTo {state : State} (h : state.IsRead P) : (goTo state).IsRead P :=
  ⟨fun _ hr => (List.not_mem_nil hr).elim, fun _ hs => Except.ok.inj hs ▸ h⟩

theorem isRead_statement : State.IsRead P .statement := trivial

theorem isRead_skipping : State.IsRead P .skipping := trivial

theorem isRead_reject (cause : ParseError.Cause) (p : Position) : (reject cause p : Move State).IsRead P :=
  ⟨fun _ hr => (List.not_mem_nil hr).elim, nofun⟩

theorem Move.IsRead.report {m : Move State} (h : m.IsRead P) (event : Event) : (m.report event).IsRead P :=
  ⟨h.rules, h.state⟩

theorem Move.IsRead.complete {m : Move State} (h : m.IsRead P) {rule : Rule} (hrule : rule.IsRead P) :
    (m.complete rule).IsRead P :=
  ⟨fun r hr => (List.mem_cons.1 hr).elim (fun heq => heq ▸ hrule) (h.rules r), h.state⟩

theorem isRead_startStatement (ht : token.kind = .identifier → P token.text) : (startStatement token).IsRead P := by
  unfold startStatement
  split
  · exact isRead_goTo isRead_statement
  · rename_i hk
    exact isRead_goTo (.identifier (ht hk))
  · exact isRead_goTo ⟨trivial, trivial⟩
  · exact isRead_goTo trivial
  · exact isRead_goTo trivial
  · exact isRead_goTo trivial
  · exact (isRead_goTo isRead_skipping).report _
  · exact (isRead_goTo isRead_statement).report _

theorem isRead_continueReference {slot : Slot} {seen : Reference} (hslot : slot.IsRead P) (hseen : seen.IsRead P)
    (ht : token.kind = .identifier → P token.text) : (continueReference slot seen token).IsRead P := by
  unfold continueReference
  split
  · exact isRead_goTo (hslot.accept .allPrerequisites)
  · exact isRead_goTo ⟨hslot, trivial⟩
  · rename_i hk
    exact isRead_goTo ⟨hslot, ht hk⟩
  · exact isRead_goTo (hslot.accept (.named hseen))
  · exact isRead_reject _ _

theorem isRead_continueFront {term : Term} (hterm : term.IsRead P) (start : Position) :
    (continueFront settings term start token).IsRead P := by
  unfold continueFront
  split
  · exact isRead_goTo hterm
  · exact isRead_goTo ⟨Rule.isRead_ofTarget hterm, fun _ ht => (List.not_mem_nil ht).elim⟩
  · exact isRead_goTo isRead_skipping
  · split
    · exact isRead_reject _ _
    · exact (isRead_goTo isRead_skipping).report _
  · exact (isRead_goTo isRead_statement).report _

theorem isRead_continueLiteral (literal : Token) (ht : token.kind = .identifier → P token.text) :
    (continueLiteral literal token).IsRead P := by
  unfold continueLiteral
  split
  · exact isRead_goTo trivial
  · exact isRead_reject _ _
  · exact (isRead_startStatement ht).report _

theorem isRead_continueLine {l : OpenLine} (hl : l.IsRead P) (ht : token.kind = .identifier → P token.text) :
    (continueLine l token).IsRead P := by
  unfold continueLine
  split
  · exact isRead_goTo hl.close
  · exact isRead_goTo hl
  · rename_i hk
    exact isRead_goTo (hl.add (.identifier (ht hk)))
  · exact isRead_goTo ⟨hl, trivial⟩
  · exact isRead_reject _ _

theorem isRead_continueRule {rule : Rule} (hrule : rule.IsRead P) (ht : token.kind = .identifier → P token.text) :
    (continueRule rule token).IsRead P := by
  unfold continueRule
  split
  · exact isRead_goTo ⟨hrule, fun _ ht => (List.not_mem_nil ht).elim⟩
  · exact (isRead_startStatement ht).complete hrule

/-- **A token keeps to names such that `P`**, if its own is one. -/
theorem isRead_advance {state : State} (hstate : state.IsRead P) (ht : token.kind = .identifier → P token.text) :
    (state.advance settings token).IsRead P := by
  cases state with
  | statement           => exact isRead_startStatement ht
  | reference slot seen => exact isRead_continueReference hstate.1 hstate.2 ht
  | front term start    => exact isRead_continueFront hstate start
  | literal t           => exact isRead_continueLiteral t ht
  | line l              => exact isRead_continueLine hstate ht
  | rule r              => exact isRead_continueRule hstate ht
  | skipping            =>
    show Move.IsRead P (if token.kind = .newline then goTo .statement else goTo .skipping)
    split <;> exact isRead_goTo trivial

theorem isRead_of_mem_finish {state : State} (hstate : state.IsRead P) (p : Position) :
    ∀ r ∈ Note.rules (state.finish p).notes, r.IsRead P := by
  intro r hr
  cases state with
  | line l  => rw [List.mem_singleton.1 hr]; exact OpenLine.IsRead.close hstate
  | rule r' => rw [List.mem_singleton.1 hr]; exact hstate
  | _       => cases hr

end
end Grammar

/-! ## Whole streams -/

section

variable {σ : Type} [TokenStream σ] {P : String → Prop} {settings : Settings}

/-- **The rules of a stream are made of its identifiers.** -/
theorem isRead_of_mem_read
    (hsource : ∀ {s s' : σ} {t : Token}, TokenStream.next s = (.ok t, s') → t.kind = .identifier → P t.text)
    {state : State} (hstate : state.IsRead P) (source : σ) :
    ∀ r ∈ Note.rules (read settings state source).notes, r.IsRead P := by
  fun_induction read settings state source with
  | case1 state source e rest hnext                   => exact fun _ hr => (List.not_mem_nil hr).elim
  | case2 state source token rest hnext hk            => exact isRead_of_mem_finish hstate token.position
  | case3 state source token rest hnext hk move e hmove =>
    exact (isRead_advance hstate (hsource hnext)).rules
  | case4 state source token rest hnext hk move state' hmove later ih =>
    -- the rules that this token completes, and those behind it
    have hadvance : move.IsRead P := isRead_advance hstate (hsource hnext)
    intro r hr
    rw [Note.rules_append] at hr
    rcases List.mem_append.1 hr with hr | hr
    · exact hadvance.rules r hr
    · exact ih (hadvance.state state' hmove) r hr

end

theorem Piece.isName {piece rest text : List Char} {n : Nat} (h : Piece piece rest (.token .identifier text n)) :
    isName text = true := by
  generalize hl : Lexeme.token .identifier text n = lexeme at h
  cases h with
  | identifier _ _ hname      => cases hl; exact hname
  | punctuation c kind _ hc _ =>
    cases hl
    unfold Token.Kind.ofPunctuation? at hc
    split at hc <;> cases hc
  | closedLiteral quote => unfold literalKind at hl; split at hl <;> cases hl
  | cutLiteral quote    => unfold literalKind at hl; split at hl <;> cases hl
  | _                   => cases hl

/-- The identifiers that a scanner hands out are names. -/
theorem isName_of_next {s s' : Scanner} {t : Token} (h : TokenStream.next s = (.ok t, s'))
    (hk : t.kind = .identifier) : isName t.text.toList = true := by
  have hne : s.rest ≠ [] := Scanner.rest_ne_nil_of_next h (by rw [hk]; decide)
  obtain ⟨piece, lexeme, -, hpiece, hplace⟩ := exists_piece_of_next h hne
  cases lexeme with
  | failure cause     => cases hplace
  | token kind text n =>
    cases hplace
    obtain rfl : kind = .identifier := hk
    rw [String.toList_ofList]
    exact hpiece.isName

/-- **Every rule that is read from a text can be written.** -/
theorem isWritable_of_parseText (settings : Settings) (text : String) :
    ∀ r ∈ Note.rules (parseText settings text).notes, r.IsWritable :=
  isRead_of_mem_read isName_of_next isRead_statement (Scanner.ofText text)

end RuleFile
