import RuleFile.Error
import RuleFile.Event
import RuleFile.Program
import RuleFile.Settings
/-!
# Expansion

Expansion gives every `$<` of a recipe its value: the names of the rule's prerequisites, joined by the separator.
Prerequisites that are variables have no part in it.

A recipe line that stands where a term belongs stops the expansion there.  What was expanded before it stays, so the
result holds the program as it was left, beside the outcome.
-/
namespace RuleFile

/-! ## Rules

The prerequisites are looked at before the recipe is touched, so a recipe line among them leaves the whole rule as it
was.  One in the recipe leaves the terms in front of it filled.  A rule that has been expanded is expanded again as any
other: its `$<` keep their name. -/

def Term.fill (value : String) : Term → Term
  | .reference name old => .reference name (if name = Term.allPrerequisitesName then value else old)
  | t                   => t

namespace Rule

def prerequisiteNames? : List Term → Option (List String)
  | []                       => some []
  | .identifier name :: rest => (prerequisiteNames? rest).map (name :: ·)
  | .reference _ _ :: rest   => prerequisiteNames? rest
  | .command _ :: _          => none

/-- The terms in front of the first one that is a recipe line are filled; says whether those are all. -/
def fillLine (value : String) : RecipeLine → RecipeLine × Bool
  | []                     => ([], true)
  | .command terms :: rest => (.command terms :: rest, false)
  | t :: rest              =>
    let filled := fillLine value rest
    (t.fill value :: filled.1, filled.2)

def fillRecipe (value : String) : List RecipeLine → List RecipeLine × Bool
  | []           => ([], true)
  | line :: rest =>
    match fillLine value line with
    | (line', false) => (line' :: rest, false)
    | (line', true)  =>
      let filled := fillRecipe value rest
      (line' :: filled.1, filled.2)

/-- The name by which an error tells of the rule; a recipe line as a target has none. -/
def errorName (rule : Rule) : String := rule.target.name?.getD ""

def expand (separator : String) (rule : Rule) : Rule × Except ExpandError String :=
  match prerequisiteNames? rule.prerequisites with
  | none       => (rule, .error ⟨.unexpectedPrerequisite, rule.errorName⟩)
  | some names =>
    let value := separator.intercalate names
    match fillRecipe value rule.recipe with
    | (recipe, false) => ({ rule with recipe }, .error ⟨.unexpectedTerm, rule.errorName⟩)
    | (recipe, true)  => ({ rule with recipe, expanded := true }, .ok value)

end Rule

/-! ## Programs

The rules are expanded in their order, up to the first that cannot be.  The symbols hold the value of the last rule that
was: there is one `$<` in a program at a time. -/

structure Expansion where
  program : Program
  events  : List Event
  outcome : Except ExpandError Unit

def Expansion.cons (statement : Statement) (event : Event) (e : Expansion) : Expansion :=
  ⟨⟨statement :: e.program.statements, e.program.symbols⟩, event :: e.events, e.outcome⟩

def expandStatements (separator : String) : List Statement → Symbols → Expansion
  | [],                             symbols => ⟨⟨[], symbols⟩, [], .ok ()⟩
  | .assignment name value :: rest, symbols =>
    (expandStatements separator rest symbols).cons (.assignment name value) .assignmentNotExpanded
  | .rule rule :: rest,             symbols =>
    match rule.expand separator with
    | (rule', .error e)  => ⟨⟨.rule rule' :: rest, symbols⟩, [], .error e⟩
    | (rule', .ok value) =>
      (expandStatements separator rest (symbols.define Term.allPrerequisitesName value)).cons (.rule rule')
        (.ruleExpanded rule.target.value value)

def Program.expand (settings : Settings) (program : Program) : Expansion :=
  expandStatements settings.separator program.statements program.symbols

end RuleFile
