import RuleFile.Term
/-!
# Rules

A rule has a target, the prerequisites it is made from, and a recipe: lines of terms.  Rules and recipe lines are
built up by adding to their ends, as in `(Rule.named "app").prerequisite "main.o"`.
-/
namespace RuleFile

abbrev RecipeLine := List Term

/-- A rule.  `expanded` is set once its recipe has been given the values of its variables. -/
structure Rule where
  target        : Term
  prerequisites : List Term
  recipe        : List RecipeLine
  expanded      : Bool
  deriving DecidableEq, Repr, Inhabited

namespace Rule

/-! ## Construction -/

def ofTarget (target : Term) : Rule := ⟨target, [], [], false⟩

def named (name : String) : Rule := ofTarget (.identifier name)

def prerequisite (rule : Rule) (name : String) : Rule :=
  { rule with prerequisites := rule.prerequisites ++ [.identifier name] }

/-- Adds `$(name)` to the prerequisites. -/
def variablePrerequisite (rule : Rule) (name : String) : Rule :=
  { rule with prerequisites := rule.prerequisites ++ [.named name] }

def command (rule : Rule) (line : RecipeLine) : Rule :=
  { rule with recipe := rule.recipe ++ [line] }

end Rule

namespace RecipeLine

def empty : RecipeLine := []

def word (line : RecipeLine) (name : String) : RecipeLine := line ++ [.identifier name]

def words (line : RecipeLine) (names : List String) : RecipeLine := line ++ names.map .identifier

/-- Adds `$(name)` to the line. -/
def variableNamed (line : RecipeLine) (name : String) : RecipeLine := line ++ [.named name]

/-- Adds `$<` to the line. -/
def allPrerequisites (line : RecipeLine) : RecipeLine := line ++ [.allPrerequisites]

end RecipeLine
end RuleFile
