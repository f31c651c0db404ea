import RuleFile.Position
/-!
# Tokens

A token is a piece of a rule file with its kind and its place.  `Token.Kind.ofPunctuation?` says which characters
are a token on their own.
-/
namespace RuleFile

/-- The kinds of token.  A quoted literal ends at its quote or before the end of its line; a period is a `.` that does
not continue an identifier; `endOfInput` is what a source of tokens hands out once it has no more. -/
inductive Token.Kind where
  | identifier
  | number
  | colon
  | tab
  | space
  | newline
  | hash
  | equals
  | lessThan
  | dollar
  | leftParen
  | rightParen
  | period
  | singleQuoteLiteral
  | doubleQuoteLiteral
  | endOfInput
  deriving DecidableEq, Repr, Inhabited

namespace Token.Kind

def name : Token.Kind → String
  | identifier         => "identifier"
  | number             => "number"
  | colon              => "':'"
  | tab                => "tab"
  | space              => "space"
  | newline            => "newline"
  | hash               => "'#'"
  | equals             => "'='"
  | lessThan           => "'<'"
  | dollar             => "'$'"
  | leftParen          => "'('"
  | rightParen         => "')'"
  | period             => "'.'"
  | singleQuoteLiteral => "single-quoted literal"
  | doubleQuoteLiteral => "double-quoted literal"
  | endOfInput         => "end of input"

/-- A tab, a space and these marks are always a token on their own, and so is a line feed. -/
def ofPunctuation? : Char → Option Token.Kind
  | '\n' => some newline
  | '\t' => some tab
  | ' '  => some space
  | ':'  => some colon
  | '#'  => some hash
  | '='  => some equals
  | '$'  => some dollar
  | '('  => some leftParen
  | ')'  => some rightParen
  | '.'  => some period
  | '<'  => some lessThan
  | _    => none

end Token.Kind

/-- A piece of a rule file.  The text of a literal is what stands between its quotes, and the text of a line break is
`"\n"` however it was written.  `byteLength` counts the UTF-8 bytes read for the token; for a literal, those of its
opening quote and of its text. -/
structure Token where
  kind       : Token.Kind
  text       : String
  byteLength : Nat
  position   : Position
  deriving DecidableEq, Repr, Inhabited

namespace Token

def endOfInput (p : Position) : Token := ⟨.endOfInput, "", 0, p⟩

end Token

/-- A line break goes to the next row. -/
def Position.after (p : Position) (k : Token.Kind) : Position :=
  if k = .newline then p.nextRow else p.nextColumn

end RuleFile
