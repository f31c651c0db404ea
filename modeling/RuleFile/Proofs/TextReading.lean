import RuleFile.Proofs.LineReading
import RuleFile.Proofs.Scanning
/-!
# Reading a text is reading its tokens

Where all pieces of a text are tokens, a scanner hands out the same tokens as their list does, and so the text is read
line by line as well (`result_parseText_of_spells`).  The end of input stands in both behind the last token.
-/
namespace RuleFile

open Grammar Lines

/-- The tokens among lexemes, each at its place. -/
def tokensAt : Position → List Lexeme → List Token
  | _, []                            => []
  | p, .token kind text n :: lexemes => ⟨kind, String.ofList text, n, p⟩ :: tokensAt (p.after kind) lexemes
  | p, .failure _ :: lexemes         => tokensAt p lexemes

def Lexeme.isToken : Lexeme → Bool
  | token _ _ _ => true
  | failure _   => false

theorem tokensAt_append : ∀ (p : Position) (lexemes later : List Lexeme),
    tokensAt p (lexemes ++ later) = tokensAt p lexemes ++ tokensAt (placeBehind p lexemes) later
  | _, [],                         _     => rfl
  | p, .token kind _ _ :: lexemes, later => congrArg (_ :: ·) (tokensAt_append (p.after kind) lexemes later)
  | p, .failure _ :: lexemes,      later => tokensAt_append p lexemes later

theorem exists_of_mem_tokensAt {t : Token} {p : Position} {lexemes : List Lexeme} (h : t ∈ tokensAt p lexemes) :
    ∃ text n, Lexeme.token t.kind text n ∈ lexemes := by
  induction lexemes generalizing p with
  | nil => cases h
  | cons lexeme lexemes ih =>
    have hlater {q : Position} (h : t ∈ tokensAt q lexemes) : ∃ text n, .token t.kind text n ∈ lexeme :: lexemes := by
      obtain ⟨text, n, hmem⟩ := ih h
      exact ⟨text, n, List.mem_cons_of_mem lexeme hmem⟩
    cases lexeme with
    | failure cause     => exact hlater h
    | token kind text n =>
      rcases List.mem_cons.1 h with rfl | h
      · exact ⟨text, n, List.mem_cons_self⟩
      · exact hlater h

/-- From any state, a scanner in front of tokens is read as the list of these. -/
theorem readingOutcome_of_split {settings : Settings} {cs : List Char} {pieces : List (List Char × Lexeme)}
    (h : Split cs pieces) (htokens : ∀ piece ∈ pieces, piece.2.isToken = true) (state : State) (p : Position)
    (f : Bool) :
    readingOutcome (read settings state (⟨cs, p, f⟩ : Scanner)) =
      (outcome settings (placeBehind p (pieces.map Prod.snd)) state (tokensAt p (pieces.map Prod.snd))).mapError
        .parse := by
  induction h generalizing state p with
  | nil =>
    have hnext : TokenStream.next (⟨[], p, f⟩ : Scanner) = (.ok (.endOfInput p), ⟨[], p, f⟩) := rfl
    exact readingOutcome_of_end hnext rfl
  | @cons piece rest lexeme pieces hpiece hrest ih =>
    have hnext : TokenStream.next (⟨piece ++ rest, p, f⟩ : Scanner) = (lexeme.place p, ⟨rest, p.past lexeme, f⟩) :=
      next_of_piece hpiece p f
    cases lexeme with
    | failure cause     => cases htokens _ List.mem_cons_self
    | token kind text n =>
      have hlater := ih fun q hq => htokens q (List.mem_cons_of_mem _ hq)
      exact readingOutcome_of_token hnext hpiece.kind_ne_endOfInput fun s => hlater s _

/-- **A text of tokens is read line by line.** -/
theorem result_parseText_of_spells {settings : Settings} {text : String} {lexemes : List Lexeme}
    (h : Spells (withoutMark text.toList) lexemes) (htokens : ∀ lexeme ∈ lexemes, lexeme.isToken = true) :
    (parseText settings text).result =
      ((rulesOf settings ⟨tokensAt .start lexemes, placeBehind .start lexemes⟩).mapError .parse).map
        Program.empty.addRules := by
  obtain ⟨pieces, hsplit, rfl⟩ := h
  have hpieces : ∀ piece ∈ pieces, piece.2.isToken = true := fun q hq => htokens _ (List.mem_map_of_mem hq)
  rw [parseText, result_build, ofText_eq, readingOutcome_of_split hsplit hpieces, (outcome_eq_readLines _).1]
  rfl

end RuleFile
