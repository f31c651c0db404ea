import RuleFile.Error
import RuleFile.Text.Alphabetic
/-!
# Lexemes

A lexeme is the first piece of a text: a token without its place, or the cause why no token starts there.
`Lexeme.first` cuts it off and returns the rest.

Identifiers and numbers run as far as they can.  A literal runs to its own quote, which is read with it, or to the end
of its line, which is left in the text; at the end of the text it is an error that takes everything.
-/
namespace RuleFile

inductive Lexeme where
  | token (kind : Token.Kind) (text : List Char) (byteLength : Nat)
  | failure (cause : LexError.Cause)
  deriving DecidableEq, Repr

/-- An identifier goes on with letters and with `.`, which joins them: `main.o`. -/
def isNameCharacter (c : Char) : Bool := Text.isAlphabetic c || c == '.'

def isLineBreak (c : Char) : Bool := c == '\n' || c == '\r'

def utf8Length (cs : List Char) : Nat := (String.ofList cs).utf8ByteSize

/-- The kind of the literal that `quote` opens. -/
def literalKind (quote : Char) : Token.Kind :=
  if quote = '\'' then .singleQuoteLiteral else .doubleQuoteLiteral

namespace Lexeme

/-- The line break that starts with a carriage return; a line feed right after it belongs to it. -/
def lineBreak : List Char → Lexeme × List Char
  | '\n' :: rest => (token .newline ['\n'] 2, rest)
  | rest         => (token .newline ['\n'] 1, rest)

/-- The literal after its opening quote. -/
def literal (quote : Char) (cs : List Char) : Lexeme × List Char :=
  let text := cs.takeWhile fun c => c != quote && !isLineBreak c
  let body := token (literalKind quote) text (quote.utf8Size + utf8Length text)
  match cs.dropWhile fun c => c != quote && !isLineBreak c with
  | []        => (failure (.unterminatedLiteral quote), [])
  | c :: rest => (body, if c = quote then rest else c :: rest)

/-- The longest piece that `c` and characters of the class `accept` make. -/
def run (kind : Token.Kind) (accept : Char → Bool) (c : Char) (cs : List Char) : Lexeme × List Char :=
  let text := c :: cs.takeWhile accept
  (token kind text (utf8Length text), cs.dropWhile accept)

/-- The first piece of the text `c :: cs`, and what follows it. -/
def first (c : Char) (cs : List Char) : Lexeme × List Char :=
  if c = '\r' then lineBreak cs
  else if c = '\'' ∨ c = '"' then literal c cs
  else match Token.Kind.ofPunctuation? c with
    | some kind => (token kind [c] c.utf8Size, cs)
    | none =>
      if Text.isAlphabetic c then run .identifier isNameCharacter c cs
      else if c.isDigit then run .number Char.isDigit c cs
      else (failure (.unexpectedCharacter c), cs)

/-! ## The rest is never longer

So a reader that goes from lexeme to lexeme comes to the end of its text. -/

theorem length_lineBreak_le (cs : List Char) : (lineBreak cs).2.length ≤ cs.length := by
  unfold lineBreak; split <;> simp

theorem length_literal_le (quote : Char) (cs : List Char) : (literal quote cs).2.length ≤ cs.length := by
  have h := (List.dropWhile_suffix (l := cs) fun c => c != quote && !isLineBreak c).length_le
  unfold literal
  simp only
  split
  · simp
  · rename_i c rest heq
    rw [heq, List.length_cons] at h
    split <;> simp <;> omega

theorem length_first_le (c : Char) (cs : List Char) : (first c cs).2.length ≤ cs.length := by
  unfold first
  split
  · exact length_lineBreak_le cs
  · split
    · exact length_literal_le c cs
    · split
      · exact Nat.le_refl _
      · split
        · exact (List.dropWhile_suffix _).length_le
        · split
          · exact (List.dropWhile_suffix _).length_le
          · exact Nat.le_refl _

/-- A piece of text is never the end of input. -/
theorem kind_first_ne_endOfInput {c : Char} {cs : List Char} {kind : Token.Kind} {text : List Char} {n : Nat}
    (h : (first c cs).1 = token kind text n) : kind ≠ .endOfInput := by
  unfold first lineBreak literal run literalKind Token.Kind.ofPunctuation? at h
  grind

end Lexeme
end RuleFile
