import RuleFile.Token
/-!
# Events

What reading, expanding and printing report of their decisions.  An event is a fact; its level, its wording and its
fields are functions of it.
-/
namespace RuleFile

inductive Event.Level where
  | error
  | warn
  | info
  | debug
  | trace
  deriving DecidableEq, Repr

inductive Event where
  | assignmentSkipped (name : String) (row : Nat)
  | termDropped (found : Token.Kind) (position : Position)
  | literalIgnored (kind : Token.Kind) (row : Nat)
  | tokenIgnored (kind : Token.Kind) (position : Position)
  | commentIgnored (row : Nat)
  | ruleExpanded (target value : String)
  | assignmentNotExpanded
  | assignmentNotPrinted
  | fileRead (statements : Nat)
  deriving DecidableEq, Repr

/-- What stands in a field of an event. -/
inductive Event.Field where
  | text (s : String)
  | count (n : Nat)
  deriving DecidableEq, Repr

namespace Event

def level : Event → Level
  | assignmentSkipped ..   => .warn
  | termDropped ..         => .debug
  | literalIgnored ..      => .info
  | tokenIgnored ..        => .info
  | commentIgnored ..      => .info
  | ruleExpanded ..        => .trace
  | assignmentNotExpanded  => .warn
  | assignmentNotPrinted   => .warn
  | fileRead ..            => .debug

def message : Event → String
  | assignmentSkipped ..   => "variable assignment is not supported, skipping"
  | termDropped ..         => "term not followed by ':' or '='"
  | literalIgnored ..      => "ignoring token"
  | tokenIgnored ..        => "ignoring token"
  | commentIgnored ..      => "ignoring comment line"
  | ruleExpanded ..        => "expanded target"
  | assignmentNotExpanded  => "skipping node during expansion"
  | assignmentNotPrinted   => "skipping node while printing"
  | fileRead ..            => "parsed rule file"

/-- The fields by name, in the order in which they are shown. -/
def fields : Event → List (String × Field)
  | assignmentSkipped name row  => [("name", .text name), ("row", .count row)]
  | termDropped found p         => [("found", .text found.name), ("row", .count p.row), ("column", .count p.column)]
  | literalIgnored kind row     => [("kind", .text kind.name), ("row", .count row)]
  | tokenIgnored kind p         => [("kind", .text kind.name), ("row", .count p.row), ("column", .count p.column)]
  | commentIgnored row          => [("row", .count row)]
  | ruleExpanded target value   => [("rule", .text target), ("value", .text value)]
  | assignmentNotExpanded       => [("kind", .text "assignment")]
  | assignmentNotPrinted        => [("kind", .text "assignment")]
  | fileRead statements         => [("nodes", .count statements)]

end Event
end RuleFile
