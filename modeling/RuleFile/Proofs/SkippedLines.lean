import Mathlib
import RuleFile.Proofs.Concatenation
import RuleFile.Proofs.Layouts
/-!
# Lines that are skipped

A comment, and an assignment under lenient settings, is skipped up to the end of its line.  What stands in it has no
effect, whatever it is made of: such a line leads from the start of a statement to the start of the next row, as a blank
line does (`IsSkipped.exists_lexemes`), and so a text is read as the same one with a blank line in its place
(`result_parseText_skipped`).
-/
namespace RuleFile

open Grammar

/-! ## Passing over lexemes -/

/-- Lexemes at `p` lead from one state to another, with the next one at `q`, and complete no rule. -/
def Passes (settings : Settings) (lexemes : List Lexeme) (p : Position) (state : State) (q : Position) (s : State) :
    Prop :=
  ∀ later program, (Account.ofLexemes settings p (lexemes ++ later) state).result program =
    (Account.ofLexemes settings q later s).result program

namespace Passes

variable {settings : Settings} {p q r : Position} {state s s' : State}

theorem nil : Passes settings [] p state p state := fun _ _ => rfl

theorem append {lexemes more : List Lexeme} (h : Passes settings lexemes p state q s)
    (hmore : Passes settings more q s r s') : Passes settings (lexemes ++ more) p state r s' := by
  intro later program
  rw [List.append_assoc, h, hmore]

/-- One token, and then the others. -/
theorem cons {kind : Token.Kind} {text : List Char} {n : Nat} {lexemes : List Lexeme}
    (hmove : (state.advance settings ⟨kind, String.ofList text, n, p⟩).result = .ok s)
    (hrules : Note.rules (state.advance settings ⟨kind, String.ofList text, n, p⟩).notes = [])
    (h : Passes settings lexemes (p.after kind) s q s') :
    Passes settings (.token kind text n :: lexemes) p state q s' := by
  intro later program
  rw [List.cons_append, Account.ofLexemes, Account.result_behind_of_ok hmove, hrules, h]
  rw [Program.addRules, List.map_nil, List.append_nil]

/-- **Nothing in a line that is skipped has an effect**, up to its end. -/
theorem skipping (name : List Char) (length : Nat) : ∀ {lexemes : List Lexeme} {p : Position},
    (∀ l ∈ lexemes, l.isToken = true) → (∀ l ∈ lexemes, l.isNewline = false) →
      Passes settings (lexemes ++ [Lexeme.token .newline name length]) p .skipping p.nextRow .statement
  | [],                            _, _,       _     => .cons rfl rfl .nil
  | .failure cause :: _,           _, htokens, _     => by cases htokens _ List.mem_cons_self
  | .token kind text n :: lexemes, p, htokens, hline => by
    obtain ⟨-, htokens⟩ := List.forall_mem_cons.1 htokens
    obtain ⟨hfirst, hline⟩ := List.forall_mem_cons.1 hline
    have hkind : kind ≠ .newline := by simpa [Lexeme.isNewline] using hfirst
    have hstay : State.advance settings .skipping ⟨kind, String.ofList text, n, p⟩ = .goTo .skipping := if_neg hkind
    have hrow : (p.after kind).nextRow = p.nextRow := by
      rw [Position.after, if_neg hkind]
      rfl
    refine .cons (congrArg Move.result hstay) (by rw [hstay]; rfl) ?_
    rw [← hrow]
    exact skipping name length htokens hline

/-- A term at the start of a statement, which reading goes on with. -/
theorem front (settings : Settings) {term : Term} (hterm : term.IsWritable) (p : Position) :
    ∃ q, q.nextRow = p.nextRow ∧ Passes settings term.lexemes p .statement q (.front term p) := by
  cases hterm with
  | @identifier name _ =>
    refine ⟨p.nextColumn, rfl, .cons rfl rfl ?_⟩
    rw [String.ofList_toList]
    exact .nil
  | @named name _ =>
    refine ⟨p.nextColumn.nextColumn.nextColumn.nextColumn, rfl, .cons rfl rfl (.cons rfl rfl (.cons rfl rfl ?_))⟩
    refine .cons rfl rfl ?_
    rw [String.ofList_toList]
    exact .nil
  | allPrerequisites => exact ⟨p.nextColumn.nextColumn, rfl, .cons rfl rfl (.cons rfl rfl .nil)⟩

theorem spaces (settings : Settings) (term : Term) (start : Position) : ∀ (n : Nat) (p : Position),
    ∃ q, q.nextRow = p.nextRow ∧
      Passes settings (List.replicate n (Lexeme.mark .space ' ')) p (.front term start) q (.front term start)
  | 0,     p => ⟨p, rfl, .nil⟩
  | n + 1, p => by
    obtain ⟨q, hrow, hlater⟩ := spaces settings term start n p.nextColumn
    exact ⟨q, hrow, .cons rfl rfl hlater⟩

/-- An assignment up to its equals sign. -/
theorem assignment (hlenient : settings.strict = false) {term : Term} (hterm : term.IsWritable) (n : Nat)
    (p : Position) : ∃ q, q.nextRow = p.nextRow ∧
      Passes settings (term.lexemes ++ (List.replicate n (Lexeme.mark .space ' ') ++ [Lexeme.mark .equals '=']))
        p .statement q .skipping := by
  obtain ⟨q, hq, hfront⟩ := front settings hterm p
  obtain ⟨r, hr, hspaces⟩ := spaces settings term p n q
  have hequals (token : Token) (hk : token.kind = .equals) : State.advance settings (.front term p) token =
      (Move.goTo .skipping).report (.assignmentSkipped (term.name?.getD "") p.row) := by
    simp [State.advance, continueFront, hk, hlenient]
  refine ⟨r.nextColumn, hr.trans hq, hfront.append (hspaces.append (.cons ?_ ?_ .nil))⟩
  · rw [hequals _ rfl]
    rfl
  · rw [hequals _ rfl]
    rfl

end Passes

/-! ## Lines -/

/-- The lines that are skipped: comments, and under lenient settings assignments. -/
inductive IsSkipped (settings : Settings) : List Char → Prop where
  | comment (text : List Char) : IsSkipped settings ('#' :: text)
  | assignment {term : Term} (hterm : term.IsWritable) (spaces : Nat) (text : List Char)
      (hlenient : settings.strict = false) :
      IsSkipped settings (term.source ++ (List.replicate spaces ' ' ++ '=' :: text))

theorem countP_isNewline {cs : List Char} {lexemes : List Lexeme} (h : Spells cs lexemes) :
    lexemes.countP Lexeme.isNewline = lineBreaks cs := by
  obtain ⟨pieces, hsplit, rfl⟩ := h
  induction hsplit with
  | nil => rfl
  | @cons piece rest lexeme pieces hpiece hrest ih =>
    rw [List.map_cons, List.countP_cons, ih, lineBreaks_of_piece hpiece]

/-- The pieces of one line and of the line feed behind it. -/
theorem exists_spells_line {cs : List Char} (hline : ∀ c ∈ cs, isLineBreak c = false) :
    ∃ lexemes text n, Spells (cs ++ ['\n']) (lexemes ++ [Lexeme.token .newline text n]) ∧
      ∀ l ∈ lexemes, l.isNewline = false := by
  obtain ⟨all, hspells⟩ := exists_spells (cs ++ ['\n'])
  obtain ⟨lexemes, text, n, rfl⟩ := hspells.exists_newline List.getLast?_concat
  refine ⟨lexemes, text, n, hspells, ?_⟩
  have hcount := countP_isNewline hspells
  rw [lineBreaks_append ['\n'] hline, List.countP_append] at hcount
  have hnone : lexemes.countP Lexeme.isNewline = 0 := Nat.add_right_cancel hcount
  simpa using hnone

theorem spells_spaces {rest : List Char} {later : List Lexeme} (h : Spells rest later) : ∀ n : Nat,
    Spells (List.replicate n ' ' ++ rest) (List.replicate n (Lexeme.mark .space ' ') ++ later)
  | 0     => h
  | n + 1 => .mark rfl (by decide) (spells_spaces h n)

theorem exists_head_lexemes {term : Term} (hterm : term.IsWritable) :
    ∃ kind text n later, term.lexemes = .token kind text n :: later ∧ kind ≠ .tab := by
  cases hterm with
  | identifier       => exact ⟨_, _, _, _, rfl, by decide⟩
  | named            => exact ⟨_, _, _, _, rfl, by decide⟩
  | allPrerequisites => exact ⟨_, _, _, _, rfl, by decide⟩

/-- **A line that is skipped leads to the start of the next row**, if its pieces are tokens.  No tab is the first of
them. -/
theorem IsSkipped.exists_lexemes {settings : Settings} {cs : List Char} (h : IsSkipped settings cs)
    (hline : ∀ c ∈ cs, isLineBreak c = false) :
    ∃ kind text n later, Spells (cs ++ ['\n']) (.token kind text n :: later) ∧ kind ≠ .tab ∧
      ((∀ l ∈ later, l.isToken = true) →
        ∀ p, Passes settings (.token kind text n :: later) p .statement p.nextRow .statement) := by
  cases h with
  | comment text =>
    obtain ⟨lexemes, name, n, hspells, hnewline⟩ :=
      exists_spells_line fun c hc => hline c (List.mem_cons_of_mem _ hc)
    refine ⟨.hash, ['#'], 1, _, .mark rfl (by decide) hspells, by decide, fun htokens p => ?_⟩
    have htokens : ∀ l ∈ lexemes, l.isToken = true := fun l hl => htokens l (List.mem_append_left _ hl)
    exact .cons rfl rfl (.skipping name n htokens hnewline)
  | @assignment term hterm spaces text hlenient =>
    obtain ⟨lexemes, name, n, hspells, hnewline⟩ := exists_spells_line fun c hc =>
      hline c (List.mem_append_right _ (List.mem_append_right _ (List.mem_cons_of_mem _ hc)))
    obtain ⟨kind, first, length, behind, hfirst, hkind⟩ := exists_head_lexemes hterm
    have hstop : ∀ d ∈ (List.replicate spaces ' ' ++ '=' :: (text ++ ['\n'])).head?, isNameCharacter d = false := by
      cases spaces <;> (rintro d ⟨⟩; decide)
    have hequals := Spells.mark (c := '=') rfl (by decide) hspells
    have hterms := Term.spells_source hterm (fun _ => hstop) (spells_spaces hequals spaces)
    rw [hfirst] at hterms
    have hassoc : term.source ++ (List.replicate spaces ' ' ++ '=' :: text) ++ ['\n'] =
        term.source ++ (List.replicate spaces ' ' ++ '=' :: (text ++ ['\n'])) := by simp
    refine ⟨kind, first, length, _, hassoc ▸ hterms, hkind, fun htokens p => ?_⟩
    have htokens : ∀ l ∈ lexemes, l.isToken = true := fun l hl => htokens l (by simp [hl])
    obtain ⟨q, hrow, hassignment⟩ := Passes.assignment hlenient hterm spaces p
    have hwhole := hassignment.append (.skipping name n htokens hnewline)
    rw [hrow, hfirst] at hwhole
    simpa using hwhole

/-! ## Behind whole lines -/

/-- A token that is no tab starts a statement, behind the rule that is open. -/
theorem result_ofLexemes_of_startsLine {settings : Settings} {s : State} (hs : s.StartsLine) {kind : Token.Kind}
    (hk : kind ≠ .tab) {text : List Char} {n : Nat} {later : List Lexeme} (p : Position) (program : Program) :
    (Account.ofLexemes settings p (.token kind text n :: later) s).result program =
      (Account.ofLexemes settings p (.token kind text n :: later) .statement).result
        (program.addRules s.openRules) := by
  have htoken : ∀ l ∈ (Lexeme.token kind text n :: later).head?, l.isToken = true := by
    rintro _ ⟨⟩
    rfl
  have htab : ∀ kind' text' n', (Lexeme.token kind text n :: later).head? = some (.token kind' text' n') →
      kind' ≠ .tab := by
    rintro _ _ _ ⟨⟩
    exact hk
  rw [ofLexemes_of_startsLine hs htoken htab, Account.result_completing]

/-- A text that begins with a token does not begin with a byte order mark. -/
theorem Spells.head?_ne_mark {cs text : List Char} {kind : Token.Kind} {n : Nat} {later : List Lexeme}
    (h : Spells cs (.token kind text n :: later)) : cs.head? ≠ some '\ufeff' := by
  intro hmark
  obtain ⟨rest, rfl⟩ := List.head?_eq_some_iff.1 hmark
  have hfirst := h.head?_eq
  have hfailure : Lexeme.first '\ufeff' rest = (.failure (.unexpectedCharacter '\ufeff'), rest) := by
    simp [Lexeme.first, Token.Kind.ofPunctuation?, isAlphabetic_mark, show Char.isDigit '\ufeff' = false by decide]
  rw [firstLexeme?, hfailure] at hfirst
  cases hfirst

theorem Spells.of_head? {cs : List Char} {lexemes : List Lexeme} (h : Spells cs lexemes)
    (hmark : cs.head? ≠ some '\ufeff') : Spells (withoutMark cs) lexemes := by
  rwa [withoutMark_of_head? hmark]

/-- Behind whole lines only what a text does at the start of a line counts. -/
theorem result_parseText_behind (settings : Settings) {s text text' : String} {lexemes lexemes' : List Lexeme}
    (hstart : s = "" ∨ s.toList.getLast? = some '\n') (h : Spells text.toList lexemes)
    (h' : Spells text'.toList lexemes') (hmark : text.toList.head? ≠ some '\ufeff')
    (hmark' : text'.toList.head? ≠ some '\ufeff')
    (hsame : ∀ p (state : State) program, state.StartsLine →
      (Account.ofLexemes settings p lexemes state).result program =
        (Account.ofLexemes settings p lexemes' state).result program) :
    (parseText settings (s ++ text)).result = (parseText settings (s ++ text')).result := by
  rcases hstart with rfl | hend
  · rw [String.empty_append, String.empty_append, result_parseText_of_lexemes settings (h.of_head? hmark),
      result_parseText_of_lexemes settings (h'.of_head? hmark')]
    exact hsame .start .statement .empty trivial
  · obtain ⟨front, hfront⟩ := exists_spells (withoutMark s.toList)
    rw [result_parseText_of_lexemes settings (spells_append hend hfront h),
      result_parseText_of_lexemes settings (spells_append hend hfront h')]
    rcases error_or_startsLine settings hfront (getLast?_withoutMark hend) .start .statement with
      ⟨notes, e, herror⟩ | ⟨htokens, state, hstate, hrun⟩
    · rw [herror, herror]
    · rw [ofLexemes_append settings _ htokens, ofLexemes_append settings _ htokens, Account.result_behind_of_ok hrun,
        Account.result_behind_of_ok hrun]
      exact hsame _ state _ hstate

/-- **A line that is skipped is the same as a blank line.**  Behind whole lines and in front of any text, a comment or
an assignment may stand instead of nothing, with anything in it that is made of tokens: the text is read as the same
program, or with the same error at the same place. -/
theorem result_parseText_skipped (settings : Settings) {s₁ line : String} (s₂ : String)
    (hstart : s₁ = "" ∨ s₁.toList.getLast? = some '\n') (hskipped : IsSkipped settings line.toList)
    (hline : ∀ c ∈ line.toList, isLineBreak c = false) {tokens : List Token}
    (htokens : tokenize (line ++ "\n") = .ok tokens) :
    (parseText settings (s₁ ++ line ++ "\n" ++ s₂)).result = (parseText settings (s₁ ++ "\n" ++ s₂)).result := by
  obtain ⟨kind, name, n, later, hspells, hkind, hpasses⟩ := hskipped.exists_lexemes hline
  have htoken : ∀ l ∈ later, l.isToken = true := by
    have hall : Spells (withoutMark (line ++ "\n").toList) (.token kind name n :: later) := by
      rw [String.toList_append]
      exact hspells.of_head? hspells.head?_ne_mark
    rw [tokenize_eq_tokensOf hall] at htokens
    exact (List.forall_mem_cons.1 (tokensOf_ok htokens).1).2
  obtain ⟨more, hmore⟩ := exists_spells s₂.toList
  have hskip : Spells (line ++ ("\n" ++ s₂)).toList (.token kind name n :: (later ++ more)) := by
    rw [String.toList_append, String.toList_append, ← List.append_assoc]
    exact hspells.append List.getLast?_concat hmore
  have hblank : Spells ("\n" ++ s₂).toList (.token .newline ['\n'] 1 :: more) := by
    rw [String.toList_append]
    exact .cons (.lineFeed _) hmore
  rw [String.append_assoc, String.append_assoc, String.append_assoc]
  refine result_parseText_behind settings hstart hskip hblank hskip.head?_ne_mark hblank.head?_ne_mark ?_
  intro p state program hstate
  have hpass : Passes settings [.token .newline ['\n'] 1] p .statement p.nextRow .statement := .cons rfl rfl .nil
  rw [result_ofLexemes_of_startsLine hstate hkind, result_ofLexemes_of_startsLine hstate (by decide)]
  exact (hpasses htoken p more _).trans (hpass more _).symm

/-- The tokens of an assignment with a reference and a literal in it that are left open, and of the line break behind
it. -/
def openAssignmentTokens : List Token :=
  [⟨.identifier, "x", 1, ⟨0, 0⟩⟩, ⟨.space, " ", 1, ⟨0, 1⟩⟩, ⟨.equals, "=", 1, ⟨0, 2⟩⟩, ⟨.dollar, "$", 1, ⟨0, 3⟩⟩,
    ⟨.leftParen, "(", 1, ⟨0, 4⟩⟩, ⟨.singleQuoteLiteral, "y:", 3, ⟨0, 5⟩⟩, ⟨.newline, "\n", 1, ⟨0, 6⟩⟩]

/-- The assignment behind an open rule, in front of a tab and of an error. -/
theorem result_parseText_skipped_assignment :
    IsSkipped {} "x =$('y:".toList ∧ (∀ c ∈ "x =$('y:".toList, isLineBreak c = false) ∧
    tokenize ("x =$('y:" ++ "\n") = .ok openAssignmentTokens ∧
    (parseText {} ("a:\n" ++ "x =$('y:" ++ "\n" ++ "\tb\n1:")).result =
      .error (.parse ⟨.invalidTarget "1", ⟨3, 0⟩⟩) := by
  have hterm : (Term.identifier "x").IsWritable := .identifier (by decide +kernel)
  have hsource : "x =$('y:".toList =
      (Term.identifier "x").source ++ (List.replicate 1 ' ' ++ '=' :: ['$', '(', '\'', 'y', ':']) := by decide
  have hskipped : IsSkipped {} "x =$('y:".toList := by
    rw [hsource]
    exact .assignment hterm 1 _ rfl
  have hline : ∀ c ∈ "x =$('y:".toList, isLineBreak c = false := by
    rw [show "x =$('y:".toList = ['x', ' ', '=', '$', '(', '\'', 'y', ':'] by decide]
    simp [isLineBreak]
  have htokens : tokenize ("x =$('y:" ++ "\n") = .ok openAssignmentTokens := by cbv
  have hblank : (parseText {} ("a:\n" ++ "\n" ++ "\tb\n1:")).result =
      .error (.parse ⟨.invalidTarget "1", ⟨3, 0⟩⟩) := by cbv
  have hend : "a:\n".toList.getLast? = some '\n' := by decide
  exact ⟨hskipped, hline, htokens, (result_parseText_skipped {} _ (.inr hend) hskipped hline htokens).trans hblank⟩

end RuleFile
