/-!
# Settings

How a rule file is read and expanded.
-/
namespace RuleFile

/-- `strict` makes a variable assignment an error instead of skipping it; `separator` stands between the prerequisites
that `$<` stands for. -/
structure Settings where
  strict    : Bool := false
  separator : String := ""
  deriving DecidableEq, Repr, Inhabited

end RuleFile
