import Mathlib
import RuleFile.Proofs.Concatenation
import RuleFile.Proofs.Expectation
import RuleFile.Proofs.LineEndings
/-!
# The end of the last line

The end of input ends a line just as a line break does.  A line feed behind a text is one more token, at the place where
the input ended, unless the text ends with a carriage return, which it then belongs to (`Spells.append_lineFeed`).  What
it does is what the end of input did, and only an error that names the one names the other instead
(`result_parseText_lineFeed`).
-/
namespace RuleFile

open Grammar

/-! ## One more line break -/

/-- A piece is one thing only. -/
theorem Piece.lexeme_unique {piece rest : List Char} {lexeme lexeme' : Lexeme} (h : Piece piece rest lexeme)
    (h' : Piece piece rest lexeme') : lexeme = lexeme' := by
  obtain ⟨c, cs, heq, hfirst⟩ := h.first_eq
  obtain ⟨c', cs', heq', hfirst'⟩ := h'.first_eq
  obtain ⟨rfl, rfl⟩ := List.cons.inj (heq.symm.trans heq')
  exact (Prod.mk.inj (hfirst.symm.trans hfirst')).1

/-- A token at the end of a text is no literal that is open. -/
theorem OpenLiteral.isToken_eq_false {piece : List Char} {lexeme : Lexeme} (h : OpenLiteral piece [] lexeme) :
    lexeme.isToken = false := by
  cases h with
  | cut _ _ hrest => obtain ⟨d, hd, -⟩ := hrest; cases hd
  | unterminated  => rfl

theorem spells_lineFeed : Spells ['\n'] [.token .newline ['\n'] 1] := by
  have h : Spells (['\n'] ++ []) [.token .newline ['\n'] 1] := .cons (.lineFeed []) .nil
  exact h

theorem spells_carriageReturnLineFeed : Spells ['\r', '\n'] [.token .newline ['\n'] 2] := by
  have h : Spells (['\r', '\n'] ++ []) [.token .newline ['\n'] 2] := .cons (.carriageReturnLineFeed []) .nil
  exact h

/-- **A line feed behind a text is one more piece of it**, or makes its last one longer, which is a carriage return. -/
theorem Spells.append_lineFeed {cs : List Char} {lexemes : List Lexeme} (h : Spells cs lexemes)
    (htokens : ∀ l ∈ lexemes, l.isToken = true) :
    Spells (cs ++ ['\n']) (lexemes ++ [Lexeme.token .newline ['\n'] 1]) ∨
      ∃ front, lexemes = front ++ [Lexeme.token .newline ['\n'] 1] ∧
        Spells (cs ++ ['\n']) (front ++ [Lexeme.token .newline ['\n'] 2]) := by
  obtain ⟨pieces, hsplit, rfl⟩ := h
  induction hsplit with
  | nil => exact .inl spells_lineFeed
  | @cons piece rest lexeme pieces hpiece hrest ih =>
    rw [List.map_cons] at htokens ⊢
    obtain ⟨htoken, hlater⟩ := List.forall_mem_cons.1 htokens
    rw [List.append_assoc]
    by_cases hne : rest = []
    · subst hne
      obtain rfl : pieces = [] := Split.nil.unique hrest
      by_cases hreturn : piece = ['\r']
      · subst hreturn
        obtain rfl := hpiece.lexeme_unique (.carriageReturn [] nofun)
        exact .inr ⟨[], rfl, spells_carriageReturnLineFeed⟩
      · rcases hpiece.before_or_open (c := '\n') (by decide) (by decide) (fun h => hreturn h.1) [] with hsame | hopen
        · exact .inl (.cons hsame spells_lineFeed)
        · rw [hopen.isToken_eq_false] at htoken
          cases htoken
    · have hsame := hpiece.extend hne ['\n']
      rcases ih hlater with hmore | ⟨front, heq, hlonger⟩
      · exact .inl (.cons hsame hmore)
      · exact .inr ⟨lexeme :: front, congrArg (lexeme :: ·) heq, .cons hsame hlonger⟩

/-! ## Errors -/

/-- An error at the end of input as one at a line break. -/
def ParseError.Cause.atLineBreak : ParseError.Cause → ParseError.Cause
  | unexpectedToken found expected =>
    unexpectedToken (if found = .endOfInput then .newline else found) expected
  | cause => cause

def Error.atLineBreak : Error → Error
  | parse e => parse ⟨e.cause.atLineBreak, e.position⟩
  | e       => e

/-- No error that a token makes is one at the end of input. -/
theorem atLineBreak_of_advance {settings : Settings} {state : State} {token : Token} {e : ParseError}
    (hk : token.kind ≠ .endOfInput) (h : (state.advance settings token).result = .error e) :
    (Error.parse e).atLineBreak = .parse e := by
  obtain ⟨cause, p⟩ := e
  cases cause with
  | unexpectedToken found expected =>
    obtain ⟨-, -, rfl, -⟩ := advance_eq_unexpected_iff.1 h
    show Error.parse ⟨.unexpectedToken (if token.kind = .endOfInput then _ else _) expected, p⟩ = _
    rw [if_neg hk]
  | _ => rfl

theorem atLineBreak_of_run {settings : Settings} : ∀ {tokens : List Token}, (∀ t ∈ tokens, t.kind ≠ .endOfInput) →
    ∀ {state : State} {e : ParseError}, (state.run settings tokens).result = .error e →
      (Error.parse e).atLineBreak = .parse e
  | [],             _,  _,     _, h => by cases h
  | token :: later, hk, state, e, h => by
    have hlater : ∀ t ∈ later, t.kind ≠ .endOfInput := fun t ht => hk t (List.mem_cons_of_mem token ht)
    rw [State.run] at h
    cases hmove : (state.advance settings token).result with
    | error e' =>
      rw [Move.andThen_of_error hmove] at h
      obtain rfl : e' = e := Except.error.inj h
      exact atLineBreak_of_advance (hk token List.mem_cons_self) hmove
    | ok s =>
      rw [Move.andThen_of_ok hmove] at h
      exact atLineBreak_of_run hlater h

/-! ## States -/

/-- **A line break does what the end of input does**, in every state. -/
theorem result_ofLexemes_lineBreak (settings : Settings) (p : Position) (state : State) (program : Program) :
    (Account.ofLexemes settings p [.token .newline ['\n'] 1] state).result program =
      ((Account.ending p state).result program).mapError Error.atLineBreak := by
  cases state with
  | reference slot seen => cases seen <;> rfl
  | _                   => rfl

/-- **One more line break behind tokens changes nothing**, but for an error at the end of input. -/
theorem result_ofLexemes_append_lineBreak (settings : Settings) {lexemes : List Lexeme}
    (htokens : ∀ l ∈ lexemes, l.isToken = true) (hkinds : ∀ t ∈ tokensAt .start lexemes, t.kind ≠ .endOfInput)
    (program : Program) :
    (Account.ofLexemes settings .start (lexemes ++ [Lexeme.token .newline ['\n'] 1]) .statement).result program =
      ((Account.ofLexemes settings .start lexemes .statement).result program).mapError Error.atLineBreak := by
  rw [ofLexemes_append settings _ htokens, ofLexemes_tokens htokens]
  cases hrun : (State.run settings .statement (tokensAt .start lexemes)).result with
  | error e =>
    rw [Account.result_behind_of_error hrun, Account.result_behind_of_error hrun]
    exact (congrArg Except.error (atLineBreak_of_run hkinds hrun)).symm
  | ok s =>
    rw [Account.result_behind_of_ok hrun, Account.result_behind_of_ok hrun]
    exact result_ofLexemes_lineBreak settings _ s _

/-- Behind a line break, no error is one at the end of input. -/
theorem mapError_result_of_lineBreak (settings : Settings) {lexemes front : List Lexeme} {text : List Char} {n : Nat}
    (hend : lexemes = front ++ [.token .newline text n]) (htokens : ∀ l ∈ lexemes, l.isToken = true)
    (hkinds : ∀ t ∈ tokensAt .start lexemes, t.kind ≠ .endOfInput) (program : Program) :
    ((Account.ofLexemes settings .start lexemes .statement).result program).mapError Error.atLineBreak =
      (Account.ofLexemes settings .start lexemes .statement).result program := by
  rw [ofLexemes_tokens htokens]
  cases hrun : (State.run settings .statement (tokensAt .start lexemes)).result with
  | error e =>
    rw [Account.result_behind_of_error hrun]
    exact congrArg Except.error (atLineBreak_of_run hkinds hrun)
  | ok s =>
    have hs : s.StartsLine := by
      rw [hend, tokensAt_append] at hrun
      exact startsLine_of_run rfl hrun
    rw [Account.result_behind_of_ok hrun, ending_of_startsLine hs]
    rfl

/-! ## Texts -/

/-- **The end of input ends a line just as a line break does.**  A line feed behind a text of tokens changes neither the
program that it is read as nor the error, except that one at the end of input is then one at a line break. -/
theorem result_parseText_lineFeed (settings : Settings) {text : String} {tokens : List Token}
    (h : tokenize text = .ok tokens) :
    (parseText settings (text ++ "\n")).result = (parseText settings text).result.mapError Error.atLineBreak := by
  obtain ⟨lexemes, hspells⟩ := exists_spells (withoutMark text.toList)
  rw [tokenize_eq_tokensOf hspells] at h
  obtain ⟨htokens, -⟩ := tokensOf_ok h
  have hkinds := kind_ne_endOfInput_of_mem_tokensAt (p := .start) hspells
  have hmore {more : List Lexeme} (h : Spells (withoutMark text.toList ++ ['\n']) more) :
      Spells (withoutMark (text ++ "\n").toList) more := by
    rwa [String.toList_append, withoutMark_append_of_head? fun _ => by decide]
  rw [result_parseText_of_lexemes settings hspells]
  rcases hspells.append_lineFeed htokens with hone | ⟨front, rfl, hlonger⟩
  · rw [result_parseText_of_lexemes settings (hmore hone)]
    exact result_ofLexemes_append_lineBreak settings htokens hkinds .empty
  · -- the last line break is a longer one now, and nothing asks for its length
    have hsame : (front ++ [Lexeme.token .newline ['\n'] 2]).map Lexeme.asLineFeed =
        (front ++ [Lexeme.token .newline ['\n'] 1]).map Lexeme.asLineFeed := by
      rw [List.map_append, List.map_append]
      rfl
    have hlength := ofLexemes_asLineFeed settings (front ++ [Lexeme.token .newline ['\n'] 2]) .start .statement
    rw [hsame, ofLexemes_asLineFeed] at hlength
    rw [result_parseText_of_lexemes settings (hmore hlonger), mapError_result_of_lineBreak settings rfl htokens hkinds,
      hlength]

/-- A `$` at the end of a text, and a rule that ends with a carriage return. -/
theorem result_parseText_lineFeed_dollar :
    tokenize "a:$" = .ok dollarTokens ∧
    (parseText {} ("a:$" ++ "\n")).result =
      .error (.parse ⟨.unexpectedToken .newline [.leftParen, .lessThan], ⟨0, 3⟩⟩) ∧
    (parseText {} ("a:\r" ++ "\n")).result = .ok (Program.empty.addRule (.named "a")) := by
  have htokens : tokenize "a:$" = .ok dollarTokens := by cbv
  have hreturn : tokenize "a:\r" =
      .ok [⟨.identifier, "a", 1, ⟨0, 0⟩⟩, ⟨.colon, ":", 1, ⟨0, 1⟩⟩, ⟨.newline, "\n", 1, ⟨0, 2⟩⟩] := by cbv
  have hdollar : (parseText {} "a:$").result =
      .error (.parse ⟨.unexpectedToken .endOfInput [.leftParen, .lessThan], ⟨0, 3⟩⟩) := by cbv
  have hrule : (parseText {} "a:\r").result = .ok (Program.empty.addRule (.named "a")) := by cbv
  refine ⟨htokens, (result_parseText_lineFeed {} htokens).trans ?_, (result_parseText_lineFeed {} hreturn).trans ?_⟩
  · rw [hdollar]
    rfl
  · rw [hrule]
    rfl

end RuleFile
