import RuleFile.Text.Invisible
/-!
# Quoted characters

How a message shows one character: between single quotes, the quote and the backslash behind a backslash, the common
controls by their letter, and every other invisible character by its number in lower-case hexadecimal.
-/
namespace RuleFile.Text

/-- The number of a character between braces, as in `\u\x7b301\x7d`. -/
def codePointEscape (c : Char) : String :=
  "\\u\x7b" ++ String.ofList (Nat.toDigits 16 c.toNat) ++ "\x7d"

def escaped (c : Char) : String :=
  match c with
  | '\x00' => "\\0"
  | '\t'   => "\\t"
  | '\r'   => "\\r"
  | '\n'   => "\\n"
  | '\''   => "\\'"
  | '\\'   => "\\\\"
  | _      => if isInvisible c then codePointEscape c else c.toString

def quoted (c : Char) : String :=
  "'" ++ escaped c ++ "'"

end RuleFile.Text
