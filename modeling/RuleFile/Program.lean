import RuleFile.Rule
import RuleFile.Symbols
/-!
# Programs

A program is the statements of a rule file in their order, and what expansion has found out about its variables.
Variable definitions have a place among the statements, but the grammar makes none.
-/
namespace RuleFile

inductive Statement where
  | rule (rule : Rule)
  | assignment (name : Term) (value : List Term)
  deriving DecidableEq, Repr, Inhabited

structure Program where
  statements : List Statement
  symbols    : Symbols
  deriving DecidableEq

def Statement.rule? : Statement → Option Rule
  | rule r         => some r
  | assignment _ _ => none

namespace Program

def empty : Program := ⟨[], .empty⟩

instance : Inhabited Program := ⟨empty⟩

def rules (program : Program) : List Rule := program.statements.filterMap Statement.rule?

def addStatement (program : Program) (statement : Statement) : Program :=
  { program with statements := program.statements ++ [statement] }

def addRule (program : Program) (rule : Rule) : Program := program.addStatement (.rule rule)

def addAssignment (program : Program) (name : Term) (value : List Term) : Program :=
  program.addStatement (.assignment name value)

end Program
end RuleFile
