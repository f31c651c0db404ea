import RuleFile.Text.Quoted
import RuleFile.Token
/-!
# Errors

What can be wrong with a rule file, as causes: a piece of text that is no token (`LexError`), a token that the grammar
does not allow (`ParseError`), a recipe line where a term belongs (`ExpandError`).  Each has its wording in one
function `message`.
-/
namespace RuleFile

/-! ## Text that is no token -/

inductive LexError.Cause where
  | unexpectedCharacter (c : Char)
  | unterminatedLiteral (quote : Char)
  deriving DecidableEq, Repr

structure LexError where
  cause    : LexError.Cause
  position : Position
  deriving DecidableEq, Repr

def LexError.Cause.message : LexError.Cause → String
  | unexpectedCharacter c     => "unexpected character: " ++ Text.quoted c
  | unterminatedLiteral quote => "unterminated " ++ quote.toString ++ "-quoted literal"

def LexError.message (e : LexError) : String :=
  e.cause.message ++ e.position.phrase

/-! ## Tokens that the grammar does not allow -/

inductive ParseError.Cause where
  | unexpectedToken (found : Token.Kind) (expected : List Token.Kind)
  | invalidTarget (found : String)
  | unsupportedAssignment (name : String)
  deriving DecidableEq, Repr

structure ParseError where
  cause    : ParseError.Cause
  position : Position
  deriving DecidableEq, Repr

/-- The kinds that would have been accepted; none are named where the text and not the kind is at fault. -/
def ParseError.expected (e : ParseError) : List Token.Kind :=
  match e.cause with
  | .unexpectedToken _ expected => expected
  | _                           => []

def ParseError.Cause.message : ParseError.Cause → String
  | unexpectedToken found []       => "unexpected " ++ found.name
  | unexpectedToken found expected =>
    "unexpected " ++ found.name ++ ", expected " ++ " or ".intercalate (expected.map Token.Kind.name)
  | invalidTarget found            => "target name must be an identifier or variable, got '" ++ found ++ "'"
  | unsupportedAssignment name     => "variable assignment is not supported: " ++ name

def ParseError.message (e : ParseError) : String :=
  e.cause.message ++ e.position.phrase

/-! ## Rules that cannot be expanded -/

inductive ExpandError.Cause where
  | unexpectedPrerequisite
  | unexpectedTerm
  deriving DecidableEq, Repr

structure ExpandError where
  cause  : ExpandError.Cause
  target : String
  deriving DecidableEq, Repr

def ExpandError.Cause.message : ExpandError.Cause → String
  | unexpectedPrerequisite => "prerequisite must be an identifier or variable"
  | unexpectedTerm         => "recipe term must be an identifier or variable"

def ExpandError.message (e : ExpandError) : String :=
  e.cause.message ++ " in target '" ++ e.target ++ "'"

/-! ## Any of them -/

inductive Error where
  | lex (e : LexError)
  | parse (e : ParseError)
  | expand (e : ExpandError)
  deriving DecidableEq, Repr

def Error.message : Error → String
  | lex e    => e.message
  | parse e  => e.message
  | expand e => e.message

end RuleFile
