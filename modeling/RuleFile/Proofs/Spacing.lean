import Mathlib
import RuleFile.Proofs.SkippedLines
/-!
# Spaces that make no difference

A space behind another one or in front of it, at a colon, at the end of a line or of a text is redundant.  Where it
stands in a literal it makes that literal longer, and anywhere else it is one more token (`Spells.respaced`).  The rules
that are read depend neither on the places of tokens nor on the texts of literals (`agrees_ofLexemes`), and no state
behind a colon, or in front of a token that ends a word, sees one more space (`Respaced.agrees`).
-/
namespace RuleFile

open Grammar

/-! ## Without places

Of a token, only its kind and the name that it may be count for the rules that are read. -/

def Token.bare (t : Token) : Token := ⟨t.kind, if t.kind = .identifier then t.text else "", 0, .start⟩

def Lexeme.bare : Lexeme → Lexeme
  | token kind text _ => token kind (if kind = .identifier then text else []) 0
  | failure cause     => failure cause

namespace Grammar

def Slot.bare : Slot → Slot
  | front _ => front .start
  | line l  => line l

def State.bare : State → State
  | reference slot seen => reference slot.bare seen
  | front term _        => front term .start
  | literal _           => literal (.endOfInput .start)
  | state               => state

/-- What a move leads to, places apart: the rules completed, and the state. -/
def Move.gain (m : Move State) : Option (List Rule × State) :=
  match m.result with
  | .ok state => some (Note.rules m.notes, state.bare)
  | .error _  => none

section

variable {settings : Settings}

theorem gain_continueReference (slot : Slot) (seen : Reference) (token : Token) :
    (continueReference slot.bare seen token.bare).gain = (continueReference slot seen token).gain := by
  obtain ⟨kind, text, n, p⟩ := token
  cases slot <;> cases seen <;> cases kind <;> rfl

theorem gain_continueFront (term : Term) (start : Position) (token : Token) :
    (continueFront settings term .start token.bare).gain = (continueFront settings term start token).gain := by
  obtain ⟨kind, text, n, p⟩ := token
  cases kind with
  | equals => cases hs : settings.strict <;> simp [continueFront, Token.bare, hs] <;> rfl
  | _      => rfl

/-- **A token does the same wherever it stands**, and whatever its text is if it is no name. -/
theorem gain_advance (state : State) (token : Token) :
    (state.bare.advance settings token.bare).gain = (state.advance settings token).gain := by
  cases state with
  | reference slot seen => exact gain_continueReference slot seen token
  | front term start    => exact gain_continueFront term start token
  | statement           => obtain ⟨kind, text, n, p⟩ := token; cases kind <;> rfl
  | literal t           => obtain ⟨kind, text, n, p⟩ := token; cases kind <;> rfl
  | skipping            => obtain ⟨kind, text, n, p⟩ := token; cases kind <;> rfl
  | line l              => obtain ⟨kind, text, n, p⟩ := token; cases kind <;> rfl
  | rule r              => obtain ⟨kind, text, n, p⟩ := token; cases kind <;> rfl

theorem gain_congr {state state' : State} {token token' : Token} (hstate : state.bare = state'.bare)
    (htoken : token.bare = token'.bare) :
    (state.advance settings token).gain = (state'.advance settings token').gain := by
  rw [← gain_advance state, hstate, htoken, gain_advance]

end
end Grammar

/-! ## Accounts of the same rules -/

/-- Accounts that tell of the same rules, or each of an error. -/
def Account.Agrees (a a' : Account) : Prop :=
  ∀ program q : Program, a.result program = .ok q ↔ a'.result program = .ok q

namespace Account

theorem Agrees.refl (a : Account) : a.Agrees a := fun _ _ => Iff.rfl

theorem agrees_of_error {a a' : Account} {e e' : Error} (h : a.outcome = .error e) (h' : a'.outcome = .error e') :
    a.Agrees a' := by
  intro program q
  rw [result_eq_error.2 h, result_eq_error.2 h']
  exact ⟨nofun, nofun⟩

theorem Agrees.completing {a a' : Account} (h : a.Agrees a') (rules : List Rule) :
    (a.completing rules).Agrees (a'.completing rules) := by
  intro program q
  rw [result_completing, result_completing]
  exact h _ q

/-- Moves that lead to the same, places apart, and are gone on with in the same way. -/
theorem agrees_behind {m m' : Move State} {next next' : State → Account} (h : m.gain = m'.gain)
    (hnext : ∀ s s', m.result = .ok s → m'.result = .ok s' → s.bare = s'.bare → (next s).Agrees (next' s')) :
    (behind m next).Agrees (behind m' next') := by
  unfold Move.gain at h
  cases hm : m.result with
  | error e =>
    rw [hm] at h
    cases hm' : m'.result with
    | error e' =>
      rw [behind_of_error hm, behind_of_error hm']
      exact agrees_of_error rfl rfl
    | ok s'    => rw [hm'] at h; cases h
  | ok s =>
    rw [hm] at h
    cases hm' : m'.result with
    | error e' => rw [hm'] at h; cases h
    | ok s'    =>
      rw [hm'] at h
      obtain ⟨hrules, hbare⟩ := Prod.mk.inj (Option.some.inj h)
      intro program q
      rw [result_behind_of_ok hm, result_behind_of_ok hm', hrules]
      exact hnext s s' hm hm' hbare _ q

theorem agrees_ending {state state' : State} (h : state.bare = state'.bare) (p p' : Position) :
    (ending p state).Agrees (ending p' state') := by
  have hbare (p : Position) (s : State) (program q : Program) :
      (ending p s).result program = .ok q ↔ (ending .start s.bare).result program = .ok q := by
    cases s with
    | reference slot seen => exact ⟨nofun, nofun⟩
    | _                   => exact Iff.rfl
  intro program q
  rw [hbare p, hbare p', h]

end Account

/-- **The rules that are read do not depend on places**, nor on the texts of literals. -/
theorem agrees_ofLexemes (settings : Settings) : ∀ {lexemes lexemes' : List Lexeme},
    lexemes.map Lexeme.bare = lexemes'.map Lexeme.bare → ∀ (p p' : Position) {state state' : State},
      state.bare = state'.bare →
        (Account.ofLexemes settings p lexemes state).Agrees (Account.ofLexemes settings p' lexemes' state')
  | [],           [],             _, p, p', _, _, hstate => Account.agrees_ending hstate p p'
  | [],           _ :: _,         h, _, _,  _, _, _      => by cases h
  | _ :: _,       [],             h, _, _,  _, _, _      => by cases h
  | l :: lexemes, l' :: lexemes', h, p, p', _, _, hstate => by
    obtain ⟨hfirst, hlater⟩ := List.cons.inj h
    cases l with
    | failure cause =>
      cases l' with
      | failure cause' => exact Account.agrees_of_error rfl rfl
      | token _ _ _    => cases hfirst
    | token kind text n =>
      cases l' with
      | failure cause'       => cases hfirst
      | token kind' text' n' =>
        obtain ⟨rfl, htext, -⟩ := Lexeme.token.inj hfirst
        have htoken : (Token.mk kind (String.ofList text) n p).bare =
            (Token.mk kind (String.ofList text') n' p').bare := by
          by_cases hk : kind = .identifier
          · rw [if_pos hk, if_pos hk] at htext
            simp only [Token.bare, htext]
          · simp only [Token.bare, if_neg hk]
        exact Account.agrees_behind (gain_congr hstate htoken) fun s s' _ _ hs =>
          agrees_ofLexemes settings hlater _ _ hs

/-! ## One more space -/

namespace Grammar

/-- The states that a space leaves as they are. -/
def State.keepsSpaces : State → Bool
  | reference _ _ => false
  | rule _        => false
  | _             => true

/-- Behind a colon, spaces are kept. -/
theorem keepsSpaces_of_colon {settings : Settings} {state s : State} {text : String} {n : Nat} {p : Position}
    (h : (state.advance settings ⟨.colon, text, n, p⟩).result = .ok s) : s.keepsSpaces = true := by
  cases state with
  | reference slot seen => cases seen <;> cases h
  | literal t           => cases h
  | line l              => cases h
  | _                   => cases h; rfl

end Grammar

theorem passes_space {settings : Settings} {state : State} (h : state.keepsSpaces = true) (p : Position) :
    Passes settings [.mark .space ' '] p state p.nextColumn state := by
  cases state with
  | reference slot seen => cases h
  | rule r              => cases h
  | _                   => exact .cons rfl rfl .nil

/-- The tokens that end a word: spaces, colons and line breaks. -/
def Lexeme.isBoundary : Lexeme → Bool
  | token kind _ _ => kind == .space || kind == .colon || kind == .newline
  | failure _      => false

theorem Lexeme.isBoundary_cases {l : Lexeme} (h : l.isBoundary = true) :
    ∃ kind text n, l = .token kind text n ∧ (kind = .space ∨ kind = .colon ∨ kind = .newline) := by
  cases l with
  | failure cause     => cases h
  | token kind text n => exact ⟨kind, text, n, rfl, by simpa [isBoundary, or_assoc] using h⟩

section

variable {settings : Settings} {later : List Lexeme}

theorem agrees_space_of_keepsSpaces {state : State} (h : state.keepsSpaces = true) (p : Position) :
    (Account.ofLexemes settings p later state).Agrees
      (Account.ofLexemes settings p (.mark .space ' ' :: later) state) := by
  intro program q
  have hpass : (Account.ofLexemes settings p (.mark .space ' ' :: later) state).result program = _ :=
    passes_space h p later program
  rw [hpass]
  exact agrees_ofLexemes settings rfl p p.nextColumn rfl program q

/-- No reference goes on behind the end of a word. -/
theorem exists_error_of_reference (settings : Settings) (hlater : ∀ l ∈ later.head?, l.isBoundary = true)
    (slot : Slot) (seen : Reference) (p : Position) :
    ∃ e, (Account.ofLexemes settings p later (.reference slot seen)).outcome = .error e := by
  cases later with
  | nil            => exact ⟨_, rfl⟩
  | cons l lexemes =>
    obtain ⟨kind, text, n, rfl, rfl | rfl | rfl⟩ := Lexeme.isBoundary_cases (hlater l rfl) <;>
      cases seen <;> exact ⟨_, rfl⟩

theorem ofLexemes_rule_of_isBoundary (hlater : ∀ l ∈ later.head?, l.isBoundary = true) (r : Rule) (p : Position) :
    Account.ofLexemes settings p later (.rule r) = (Account.ofLexemes settings p later .statement).completing [r] := by
  refine ofLexemes_of_startsLine (s := .rule r) trivial (fun l hl => ?_) (fun kind text n hhead => ?_) p
  · obtain ⟨kind, text, n, rfl, -⟩ := Lexeme.isBoundary_cases (hlater l hl)
    rfl
  · have hboundary := hlater _ (Option.mem_def.2 hhead)
    rintro rfl
    cases hboundary

/-- **A space in front of the end of a word makes no difference**, in any state. -/
theorem agrees_space (hlater : ∀ l ∈ later.head?, l.isBoundary = true) (p : Position) (state : State) :
    (Account.ofLexemes settings p later state).Agrees
      (Account.ofLexemes settings p (.mark .space ' ' :: later) state) := by
  have hspace : ∀ l ∈ (Lexeme.mark .space ' ' :: later).head?, l.isBoundary = true := by
    rintro _ ⟨⟩
    rfl
  cases state with
  | reference slot seen =>
    obtain ⟨e, he⟩ := exists_error_of_reference settings hlater slot seen p
    obtain ⟨e', he'⟩ := exists_error_of_reference settings hspace slot seen p
    exact Account.agrees_of_error he he'
  | rule r =>
    rw [ofLexemes_rule_of_isBoundary hlater, ofLexemes_rule_of_isBoundary hspace]
    exact (agrees_space_of_keepsSpaces rfl p).completing [r]
  | _ => exact agrees_space_of_keepsSpaces rfl p

/-- One and the same token in front. -/
theorem agrees_cons {kind : Token.Kind} {text : List Char} {n : Nat} {p : Position} {state : State}
    {later' : List Lexeme} (h : ∀ s : State, (state.advance settings ⟨kind, String.ofList text, n, p⟩).result = .ok s →
      (Account.ofLexemes settings (p.after kind) later s).Agrees
        (Account.ofLexemes settings (p.after kind) later' s)) :
    (Account.ofLexemes settings p (.token kind text n :: later) state).Agrees
      (Account.ofLexemes settings p (.token kind text n :: later') state) := by
  refine Account.agrees_behind rfl fun s s' hs hs' _ => ?_
  obtain rfl := Except.ok.inj (hs.symm.trans hs')
  exact h s hs

end

/-- Lexemes, and those with one more space or with other characters in a literal. -/
inductive Respaced : List Lexeme → List Lexeme → Prop where
  | space {later : List Lexeme} (hlater : ∀ l ∈ later.head?, l.isBoundary = true) :
      Respaced later (.mark .space ' ' :: later)
  | colonSpace (later : List Lexeme) :
      Respaced (.mark .colon ':' :: later) (.mark .colon ':' :: .mark .space ' ' :: later)
  | literal {l l' : Lexeme} (later : List Lexeme) (h : l.bare = l'.bare) : Respaced (l :: later) (l' :: later)
  | cons (l : Lexeme) {later later' : List Lexeme} (h : Respaced later later') : Respaced (l :: later) (l :: later')

/-- **One more space is not seen**, at any place and in any state. -/
theorem Respaced.agrees (settings : Settings) {lexemes lexemes' : List Lexeme} (h : Respaced lexemes lexemes') :
    ∀ (p : Position) (state : State),
      (Account.ofLexemes settings p lexemes state).Agrees (Account.ofLexemes settings p lexemes' state) := by
  induction h with
  | space hlater     => exact agrees_space hlater
  | colonSpace later =>
    exact fun p state => agrees_cons fun s hs => agrees_space_of_keepsSpaces (keepsSpaces_of_colon hs) _
  | literal later hbare =>
    exact fun p state => agrees_ofLexemes settings (by rw [List.map_cons, List.map_cons, hbare]) p p rfl
  | cons l h ih =>
    intro p state
    cases l with
    | failure cause     => exact .refl _
    | token kind text n => exact agrees_cons fun s _ => ih _ s

/-! ## One more space in a text -/

/-- A space between two texts makes no difference to the one that they make: behind a space or a colon, in front of one,
at the end of a line, or at the end of the text, where nothing is behind it.  A line break is not torn in two. -/
def Redundant (before behind : List Char) : Prop :=
  (∃ c ∈ before.getLast?, c = ' ' ∨ c = ':') ∨
    (∀ c ∈ behind.head?, c = ' ' ∨ c = ':' ∨ isLineBreak c = true) ∧
      ¬ (before.getLast? = some '\r' ∧ behind.head? = some '\n')

theorem bare_literal (quote : Char) (text : List Char) (n : Nat) :
    (Lexeme.token (literalKind quote) text n).bare = .token (literalKind quote) [] 0 := by
  unfold literalKind
  split <;> rfl

theorem isLiteralCharacter_space {quote : Char} (h : quote = '\'' ∨ quote = '"') :
    isLiteralCharacter quote ' ' = true := by
  rcases h with rfl | rfl <;> decide

/-- More text in a literal. -/
theorem forall_isLiteralCharacter {quote : Char} (hquote : quote = '\'' ∨ quote = '"') {text more : List Char}
    (h : ∀ d ∈ text ++ more, isLiteralCharacter quote d = true) :
    ∀ d ∈ text ++ ' ' :: more, isLiteralCharacter quote d = true := by
  rw [List.forall_mem_append] at h ⊢
  exact ⟨h.1, List.forall_mem_cons.2 ⟨isLiteralCharacter_space hquote, h.2⟩⟩

/-- A literal that is open goes on with a space. -/
theorem OpenLiteral.space {piece rest : List Char} {lexeme : Lexeme} (h : OpenLiteral piece rest lexeme) :
    ∃ lexeme', Piece (piece ++ [' ']) rest lexeme' ∧ lexeme.bare = lexeme'.bare := by
  cases h with
  | @cut quote text _ hquote htext hrest =>
    refine ⟨_, .cutLiteral quote (text ++ [' ']) rest hquote ?_ hrest, by rw [bare_literal, bare_literal]⟩
    exact forall_isLiteralCharacter hquote (by rwa [List.append_nil])
  | @unterminated quote text hquote htext =>
    refine ⟨_, .unterminatedLiteral quote (text ++ [' ']) hquote ?_, rfl⟩
    exact forall_isLiteralCharacter hquote (by rwa [List.append_nil])

theorem Redundant.exists_mem {u w rest : List Char} (h : Redundant u (w ++ rest)) (hw : w ≠ []) :
    ∃ c ∈ u ++ w, c = ' ' ∨ c = ':' ∨ isLineBreak c = true := by
  obtain ⟨d, ds, rfl⟩ := List.exists_cons_of_ne_nil hw
  rcases h with ⟨c, hc, hspace⟩ | ⟨hhead, -⟩
  · exact ⟨c, List.mem_append_left _ (List.mem_of_getLast? hc), hspace.imp_right .inl⟩
  · exact ⟨d, List.mem_append_right _ List.mem_cons_self, hhead d rfl⟩

theorem not_isNameCharacter {c : Char} (h : c = ' ' ∨ c = ':' ∨ isLineBreak c = true) :
    isNameCharacter c = false ∧ c.isDigit = false := by
  simp only [isLineBreak, Bool.or_eq_true, beq_iff_eq] at h
  rcases h with rfl | rfl | rfl | rfl <;> decide

/-- **Where a space is redundant within a piece, that is a literal**, and the space makes it longer. -/
theorem Piece.insert_space {u w rest : List Char} {lexeme : Lexeme} (h : Piece (u ++ w) rest lexeme) (hu : u ≠ [])
    (hw : w ≠ []) (hplace : Redundant u (w ++ rest)) :
    ∃ lexeme', Piece (u ++ ' ' :: w) rest lexeme' ∧ lexeme.bare = lexeme'.bare := by
  obtain ⟨c, hc, hword⟩ := hplace.exists_mem hw
  obtain ⟨d, u, rfl⟩ := List.exists_cons_of_ne_nil hu
  have hlength : (d :: u ++ w).length ≠ 1 := by
    have hpos := List.length_pos_iff.2 hw
    rw [List.cons_append, List.length_cons, List.length_append]
    omega
  generalize hcs : d :: u ++ w = cs at h hc hlength
  cases h with
  | lineFeed            => exact absurd rfl hlength
  | carriageReturn      => exact absurd rfl hlength
  | punctuation         => exact absurd rfl hlength
  | unexpectedCharacter => exact absurd rfl hlength
  | carriageReturnLineFeed =>
    obtain ⟨rfl, hfeed⟩ := List.cons.inj hcs
    obtain ⟨rfl, hfeed⟩ := (List.append_eq_singleton_iff.1 hfeed).resolve_right fun h => hw h.2
    subst hfeed
    rcases hplace with ⟨e, ⟨⟩, he⟩ | ⟨-, hbreak⟩
    · exact absurd he (by decide)
    · exact absurd ⟨rfl, rfl⟩ hbreak
  | identifier _ _ hname =>
    exact absurd (forall_mem_of_isName hname c hc) (by simp [(not_isNameCharacter hword).1])
  | number _ _ _ hdigits =>
    exact absurd (hdigits c hc) (by simp [(not_isNameCharacter hword).2])
  | closedLiteral quote text _ hquote htext =>
    obtain ⟨rfl, hcs⟩ := List.cons.inj hcs
    obtain ⟨w, e, rfl⟩ := (List.eq_nil_or_concat w).resolve_left hw
    rw [List.append_eq, List.concat_eq_append, ← List.append_assoc] at hcs
    obtain ⟨rfl, hend⟩ := List.append_inj' hcs rfl
    obtain rfl : e = d := List.singleton_injective hend
    have hspaced : e :: u ++ ' ' :: w.concat e = e :: ((u ++ ' ' :: w) ++ [e]) := by simp
    rw [hspaced]
    exact ⟨_, .closedLiteral e _ rest hquote (forall_isLiteralCharacter hquote htext), by
      rw [bare_literal, bare_literal]⟩
  | cutLiteral quote text _ hquote htext hrest =>
    obtain ⟨rfl, rfl⟩ := List.cons.inj hcs
    exact ⟨_, .cutLiteral d _ rest hquote (forall_isLiteralCharacter hquote htext) hrest, by
      rw [bare_literal, bare_literal]⟩
  | unterminatedLiteral quote text hquote htext =>
    obtain ⟨rfl, rfl⟩ := List.cons.inj hcs
    exact ⟨_, .unterminatedLiteral d _ hquote (forall_isLiteralCharacter hquote htext), rfl⟩

/-- Only a space and a colon end with one, in front of a space. -/
theorem Piece.mark_of_getLast? {piece later : List Char} {lexeme : Lexeme} (h : Piece piece (' ' :: later) lexeme)
    (hend : ∃ c ∈ piece.getLast?, c = ' ' ∨ c = ':') : lexeme = .mark .space ' ' ∨ lexeme = .mark .colon ':' := by
  obtain ⟨c, hc, hmark⟩ := hend
  have hmem := List.mem_of_getLast? hc
  have hword : c = ' ' ∨ c = ':' ∨ isLineBreak c = true := hmark.imp_right .inl
  have hbreak : isLineBreak c = false := by rcases hmark with rfl | rfl <;> rfl
  cases h with
  | punctuation d kind _ hd =>
    obtain rfl := List.mem_singleton.1 hmem
    rcases hmark with rfl | rfl <;> cases hd
    · exact .inl rfl
    · exact .inr rfl
  | identifier _ _ hname =>
    exact absurd (forall_mem_of_isName hname c hmem) (by simp [(not_isNameCharacter hword).1])
  | number _ _ _ hdigits =>
    exact absurd (hdigits c hmem) (by simp [(not_isNameCharacter hword).2])
  | closedLiteral quote text _ hquote =>
    rw [← List.cons_append, List.getLast?_concat] at hc
    cases hc
    rcases hquote with rfl | rfl <;> exact absurd hmark (by decide)
  | cutLiteral quote text _ hquote htext hrest =>
    obtain ⟨d, ⟨⟩, hd⟩ := hrest
    cases hd
  | unexpectedCharacter d _ hd =>
    obtain rfl := List.mem_singleton.1 hmem
    rcases hmark with rfl | rfl <;> cases hd
  | lineFeed               => cases hc; cases hbreak
  | carriageReturnLineFeed => cases hc; cases hbreak
  | carriageReturn         => cases hc; cases hbreak

theorem isBoundary_head? {cs : List Char} {lexemes : List Lexeme} (h : Spells cs lexemes)
    (hhead : ∀ c ∈ cs.head?, c = ' ' ∨ c = ':' ∨ isLineBreak c = true) :
    ∀ l ∈ lexemes.head?, l.isBoundary = true := by
  rw [h.head?_eq]
  cases cs with
  | nil       => rintro _ ⟨⟩
  | cons c cs =>
    rintro _ ⟨⟩
    have hc := hhead c rfl
    simp only [isLineBreak, Bool.or_eq_true, beq_iff_eq] at hc
    rcases hc with rfl | rfl | rfl | rfl
    · rfl
    · rfl
    · rfl
    · show (Lexeme.lineBreak cs).1.isBoundary = true
      unfold Lexeme.lineBreak
      split <;> rfl

theorem Piece.space_behind {piece rest : List Char} {lexeme : Lexeme} {later : List Lexeme}
    (h : Piece piece rest lexeme) (hlater : Spells rest later) (hplace : Redundant piece rest) :
    ∃ lexemes', Spells (piece ++ ' ' :: rest) lexemes' ∧ Respaced (lexeme :: later) lexemes' := by
  rcases h.before_or_open (c := ' ') (by decide) (by decide) (fun hr => absurd hr.2 (by decide)) rest with hsame | hopen
  · refine ⟨lexeme :: .mark .space ' ' :: later, .cons hsame (.mark rfl (by decide) hlater), ?_⟩
    rcases hplace with hend | ⟨hhead, -⟩
    · rcases hsame.mark_of_getLast? hend with rfl | rfl
      · exact .space (by rintro _ ⟨⟩; rfl)
      · exact .colonSpace later
    · exact .cons lexeme (.space (isBoundary_head? hlater hhead))
  · obtain ⟨lexeme', hlonger, hbare⟩ := hopen.space
    refine ⟨lexeme' :: later, ?_, .literal later hbare⟩
    have hspells := Spells.cons hlonger hlater
    rwa [List.append_assoc] at hspells

/-- **A redundant space is one more token of a text, or one more character of a literal.** -/
theorem Spells.respaced {u v : List Char} {lexemes : List Lexeme} (h : Spells (u ++ v) lexemes)
    (hplace : Redundant u v) : ∃ lexemes', Spells (u ++ ' ' :: v) lexemes' ∧ Respaced lexemes lexemes' := by
  by_cases hu : u = []
  · subst hu
    exact ⟨_, .mark rfl (by decide) h, .space (isBoundary_head? h (hplace.resolve_left nofun).1)⟩
  obtain ⟨pieces, hsplit, rfl⟩ := h
  generalize hcs : u ++ v = cs at hsplit
  induction hsplit generalizing u with
  | nil => exact absurd (List.append_eq_nil_iff.1 hcs).1 hu
  | @cons piece rest lexeme pieces hpiece hrest ih =>
    rw [List.map_cons]
    have hlater : Spells rest (pieces.map Prod.snd) := ⟨pieces, hrest, rfl⟩
    rcases List.append_eq_append_iff.1 hcs with ⟨w, rfl, rfl⟩ | ⟨w, rfl, rfl⟩
    · -- within the piece, or right behind it
      by_cases hw : w = []
      · subst hw
        rw [List.append_nil] at hpiece
        exact hpiece.space_behind hlater hplace
      · obtain ⟨lexeme', hlonger, hbare⟩ := hpiece.insert_space hu hw hplace
        refine ⟨lexeme' :: pieces.map Prod.snd, ?_, .literal _ hbare⟩
        have hspells := Spells.cons hlonger hlater
        rwa [List.append_assoc] at hspells
    · by_cases hw : w = []
      · subst hw
        rw [List.append_nil] at hplace ⊢
        exact hpiece.space_behind hlater hplace
      · -- further behind: the piece is followed by the same character
        have hlast : (piece ++ w).getLast? = w.getLast? := List.getLast?_append_of_ne_nil _ hw
        obtain ⟨lexemes', hspells, hmore⟩ := ih (by rwa [Redundant, hlast] at hplace) hw rfl
        refine ⟨lexeme :: lexemes', ?_, .cons lexeme hmore⟩
        rw [List.append_assoc]
        refine .cons (hpiece.of_head? (by simp [hw]) ?_) hspells
        obtain ⟨c, w, rfl⟩ := List.exists_cons_of_ne_nil hw
        rfl

/-! ## Texts -/

theorem Redundant.withoutMark {u v : List Char} (h : Redundant u v) : Redundant (withoutMark u) v := by
  rcases h with ⟨c, hc, hmark⟩ | ⟨hhead, hbreak⟩
  · have hne : c ≠ '\ufeff' := by rcases hmark with rfl | rfl <;> decide
    exact .inl ⟨c, (mem_getLast?_withoutMark hne).2 hc, hmark⟩
  · exact .inr ⟨hhead, fun h => hbreak ⟨(mem_getLast?_withoutMark (by decide)).1 h.1, h.2⟩⟩

/-- **Redundant spaces do not change the program.**  A text with one more space, at a place where that is redundant, is
read as the same program, and as none if the text is. -/
theorem result_parseText_space (settings : Settings) {u v : String} (hplace : Redundant u.toList v.toList)
    (program : Program) :
    (parseText settings (u ++ v)).result = .ok program ↔ (parseText settings (u ++ " " ++ v)).result = .ok program := by
  obtain ⟨lexemes, hspells⟩ := exists_spells (withoutMark u.toList ++ v.toList)
  obtain ⟨lexemes', hspells', hrespaced⟩ := hspells.respaced hplace.withoutMark
  have hmark : u.toList = [] → v.toList.head? ≠ some '\ufeff' := by
    intro hnil hhead
    rw [hnil] at hplace
    exact absurd ((hplace.resolve_left nofun).1 _ hhead) (by decide)
  have htext : Spells (withoutMark (u ++ v).toList) lexemes := by
    rwa [String.toList_append, withoutMark_append_of_head? hmark]
  have hspaced : Spells (withoutMark (u ++ " " ++ v).toList) lexemes' := by
    have hhead : (' ' :: v.toList).head? ≠ some '\ufeff' := by simp
    rw [String.append_assoc, String.toList_append, String.toList_append]
    exact withoutMark_append_of_head? (fun _ => hhead) ▸ hspells'
  rw [result_parseText_of_lexemes settings htext, result_parseText_of_lexemes settings hspaced]
  exact hrespaced.agrees settings .start .statement .empty program

/-- A space in a literal that the end of its line cuts, one in front of a colon, and one at the end of the text. -/
theorem result_parseText_space_literal :
    Redundant "'x".toList "\na:b".toList ∧ Redundant "'x\na".toList ":b".toList ∧
    Redundant "'x\na:b".toList "".toList ∧
    (parseText {} ("'x" ++ " " ++ "\na:b")).result =
      .ok (Program.empty.addRule ((Rule.named "a").prerequisite "b")) ∧
    (parseText {} ("'x\na" ++ " " ++ ":b")).result =
      .ok (Program.empty.addRule ((Rule.named "a").prerequisite "b")) ∧
    (parseText {} ("'x\na:b" ++ " " ++ "")).result =
      .ok (Program.empty.addRule ((Rule.named "a").prerequisite "b")) := by
  have hread : (parseText {} "'x\na:b").result =
      .ok (Program.empty.addRule ((Rule.named "a").prerequisite "b")) := by cbv
  have hliteral : Redundant "'x".toList "\na:b".toList :=
    .inr ⟨fun c hc => by obtain rfl : '\n' = c := Option.some.inj hc; decide, by decide⟩
  have hcolon : Redundant "'x\na".toList ":b".toList :=
    .inr ⟨fun c hc => by obtain rfl : ':' = c := Option.some.inj hc; decide, by decide⟩
  have hend : Redundant "'x\na:b".toList "".toList := .inr ⟨fun c hc => (by cases hc), by decide⟩
  exact ⟨hliteral, hcolon, hend, (result_parseText_space {} hliteral _).1 hread,
    (result_parseText_space {} hcolon _).1 hread, (result_parseText_space {} hend _).1 hread⟩

end RuleFile
