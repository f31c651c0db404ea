import RuleFile.Error
import RuleFile.Event
import RuleFile.Rule
import RuleFile.Settings
/-!
# The grammar of rule files

    program       := { statement }
    statement     := rule | assignment | comment | ignored token
    rule          := term ':' prerequisites { TAB recipe line }
    assignment    := term '=' ...
    prerequisites := { SPACE | term } NEWLINE
    recipe line   := { SPACE | term } NEWLINE
    term          := IDENTIFIER | '$' '<' | '$' '(' IDENTIFIER ')'

The grammar is read by a machine.  `State` is what is still open after some tokens; `State.advance` takes one token
and says what is open after it, and `State.finish` takes the end of input.  Every token is looked at once: where one
token decides what became of those before it, it is then read by the state that follows.

A rule is complete only when the token after its last line is known, since a tab there would open a recipe line.

What a machine leaves behind is a list of notes, the rules completed and the events reported in their order.
-/
namespace RuleFile.Grammar

/-! ## States

Between two tokens there is nothing open where a statement may start, and a line that is skipped keeps nothing either.
A term in front of a statement stays open, with the spaces behind it, until the token comes that says what it begins,
and so does a number or a literal, which begins nothing.  A line of a rule is open with the terms it has so far, and
after its end the rule is, as long as another line may follow.

A reference is read in three tokens, or in two, and so is open on its way, behind `$`, `$(` or `$(name`.  It may be a
term in front of a statement or one in a line, so it takes along the slot that it belongs to. -/

inductive Reference where
  | dollar
  | opened
  | named (name : String)
  deriving DecidableEq, Repr

/-- The line of the prerequisites, or one of the recipe. -/
structure OpenLine where
  rule     : Rule
  inRecipe : Bool
  terms    : List Term
  deriving DecidableEq, Repr

inductive Slot where
  | front (start : Position)
  | line (line : OpenLine)
  deriving DecidableEq, Repr

inductive State where
  | statement
  | reference (slot : Slot) (seen : Reference)
  | front (term : Term) (start : Position)
  | literal (token : Token)
  | skipping
  | line (line : OpenLine)
  | rule (rule : Rule)
  deriving DecidableEq, Repr

namespace OpenLine

def add (l : OpenLine) (term : Term) : OpenLine := { l with terms := l.terms ++ [term] }

def close (l : OpenLine) : Rule :=
  if l.inRecipe then { l.rule with recipe := l.rule.recipe ++ [l.terms] } else { l.rule with prerequisites := l.terms }

end OpenLine

def Slot.accept : Slot → Term → State
  | front start, term => .front term start
  | line l,      term => .line (l.add term)

/-! ## Notes

Rules and events are noted in one list, in the order in which they come, since an event may be reported between two
rules. -/

inductive Note where
  | rule (rule : Rule)
  | event (event : Event)
  deriving DecidableEq, Repr

namespace Note

def rule? : Note → Option Rule
  | rule r  => some r
  | event _ => none

def event? : Note → Option Event
  | rule _  => none
  | event e => some e

def rules (notes : List Note) : List Rule := notes.filterMap rule?

def events (notes : List Note) : List Event := notes.filterMap event?

end Note

/-! ## Moves

A token leaves notes and then a state, or an error.  A move is put together from where it goes in the end and what it
notes on the way there, the last of it first. -/

structure Move (α : Type) where
  notes  : List Note
  result : Except ParseError α

namespace Move

def goTo (state : State) : Move State := ⟨[], .ok state⟩

def done : Move Unit := ⟨[], .ok ()⟩

def reject {α : Type} (cause : ParseError.Cause) (p : Position) : Move α := ⟨[], .error ⟨cause, p⟩⟩

def report {α : Type} (m : Move α) (event : Event) : Move α := ⟨.event event :: m.notes, m.result⟩

def complete {α : Type} (m : Move α) (rule : Rule) : Move α := ⟨.rule rule :: m.notes, m.result⟩

end Move

open Move

/-! ## One token

An error names the kinds that a line or a reference may go on with.  The end of input is none of these, even where it
may come too.

Spaces behind what stands in front of a statement make no difference.  Behind a term a colon makes the term a target,
and an equals sign makes the line an assignment; any other token but a comment's drops the term and goes with it.
Behind a number or a literal a colon is an error, which is told at the place of what should have been a target; any
other token is read as if a statement started with it. -/

def lineKinds : List Token.Kind := [.identifier, .dollar, .space, .newline]

def Reference.expected : Reference → List Token.Kind
  | dollar  => [.leftParen, .lessThan]
  | opened  => [.identifier]
  | named _ => [.rightParen]

def startStatement (token : Token) : Move State :=
  match token.kind with
  | .newline            => goTo .statement
  | .identifier         => goTo (.front (.identifier token.text) token.position)
  | .dollar             => goTo (.reference (.front token.position) .dollar)
  | .number             => goTo (.literal token)
  | .singleQuoteLiteral => goTo (.literal token)
  | .doubleQuoteLiteral => goTo (.literal token)
  | .hash               => (goTo .skipping).report (.commentIgnored token.position.row)
  | kind                => (goTo .statement).report (.tokenIgnored kind token.position)

def continueReference (slot : Slot) (seen : Reference) (token : Token) : Move State :=
  match seen, token.kind with
  | .dollar,     .lessThan   => goTo (slot.accept .allPrerequisites)
  | .dollar,     .leftParen  => goTo (.reference slot .opened)
  | .opened,     .identifier => goTo (.reference slot (.named token.text))
  | .named name, .rightParen => goTo (slot.accept (.named name))
  | _,           found       => reject (.unexpectedToken found seen.expected) token.position

def continueFront (settings : Settings) (term : Term) (start : Position) (token : Token) : Move State :=
  match token.kind with
  | .space  => goTo (.front term start)
  | .colon  => goTo (.line ⟨.ofTarget term, false, []⟩)
  | .hash   => goTo .skipping
  | .equals =>
    let name := term.name?.getD ""
    if settings.strict then reject (.unsupportedAssignment name) start
    else (goTo .skipping).report (.assignmentSkipped name start.row)
  | found   => (goTo .statement).report (.termDropped found token.position)

def continueLiteral (literal token : Token) : Move State :=
  match token.kind with
  | .space => goTo (.literal literal)
  | .colon => reject (.invalidTarget literal.text) literal.position
  | _      => (startStatement token).report (.literalIgnored literal.kind literal.position.row)

def continueLine (l : OpenLine) (token : Token) : Move State :=
  match token.kind with
  | .newline    => goTo (.rule l.close)
  | .space      => goTo (.line l)
  | .identifier => goTo (.line (l.add (.identifier token.text)))
  | .dollar     => goTo (.reference (.line l) .dollar)
  | found       => reject (.unexpectedToken found lineKinds) token.position

/-- A tab opens a recipe line, and any other token completes the rule. -/
def continueRule (rule : Rule) (token : Token) : Move State :=
  if token.kind = .tab then goTo (.line ⟨rule, true, []⟩) else (startStatement token).complete rule

/-- What a token does that is not the end of input. -/
def State.advance (settings : Settings) (state : State) (token : Token) : Move State :=
  match state with
  | statement           => startStatement token
  | reference slot seen => continueReference slot seen token
  | front term start    => continueFront settings term start token
  | literal t           => continueLiteral t token
  | skipping            => if token.kind = .newline then goTo .statement else goTo .skipping
  | line l              => continueLine l token
  | rule r              => continueRule r token

/-! ## The end of input

It ends a line just as a line break would, and completes the rule whose line it is.  A reference it leaves open is an
error, and what stands in front of a statement that never came is reported as any other token would have it. -/

def State.finish (state : State) (p : Position) : Move Unit :=
  match state with
  | statement        => done
  | reference _ seen => reject (.unexpectedToken .endOfInput seen.expected) p
  | front _ _        => done.report (.termDropped .endOfInput p)
  | literal t        => done.report (.literalIgnored t.kind t.position.row)
  | skipping         => done
  | line l           => done.complete l.close
  | rule r           => done.complete r

end RuleFile.Grammar
