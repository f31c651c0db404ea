/-!
# Terms

What a rule is made of: identifiers, references to variables with the value they stand for at the moment, and whole
recipe lines.  The grammar makes only identifiers and references; a recipe line as a term comes from a program that
was built by hand.
-/
namespace RuleFile

inductive Term where
  | identifier (name : String)
  | reference (name value : String)
  | command (terms : List Term)
  deriving Repr, Inhabited

namespace Term

/-! ## Equality -/

mutual
def decEq : (a b : Term) → Decidable (a = b)
  | identifier n,   identifier m   => decidable_of_iff (n = m) (by simp)
  | reference n v,  reference m w  => decidable_of_iff (n = m ∧ v = w) (by simp)
  | command ts,     command us     =>
    match decEqList ts us with
    | isTrue h  => isTrue (by rw [h])
    | isFalse h => isFalse (by simp [h])
  | identifier _,   reference _ _  => isFalse (by simp)
  | identifier _,   command _      => isFalse (by simp)
  | reference _ _,  identifier _   => isFalse (by simp)
  | reference _ _,  command _      => isFalse (by simp)
  | command _,      identifier _   => isFalse (by simp)
  | command _,      reference _ _  => isFalse (by simp)

def decEqList : (ts us : List Term) → Decidable (ts = us)
  | [],      []      => isTrue rfl
  | [],      _ :: _  => isFalse (by simp)
  | _ :: _,  []      => isFalse (by simp)
  | t :: ts, u :: us =>
    match decEq t u, decEqList ts us with
    | isTrue h,  isTrue h'  => isTrue (by rw [h, h'])
    | isFalse h, _          => isFalse (by simp [h])
    | _,         isFalse h' => isFalse (by simp [h'])
end

instance : DecidableEq Term := decEq

/-! ## Variables -/

/-- The name of the variable that stands for all prerequisites of its rule. -/
def allPrerequisitesName : String := "$^"

/-- A reference `$(name)`, which stands for nothing yet. -/
def named (name : String) : Term := reference name ""

/-- The reference `$<`, which stands for its own name until its rule is expanded. -/
def allPrerequisites : Term := reference allPrerequisitesName allPrerequisitesName

/-! ## Text -/

mutual
/-- The text a term stands for; the terms of a recipe line are joined by single spaces. -/
def value : Term → String
  | identifier name   => name
  | reference _ value => value
  | command terms     => " ".intercalate (values terms)

def values : List Term → List String
  | []         => []
  | t :: terms => t.value :: values terms
end

theorem values_eq_map : ∀ terms : List Term, values terms = terms.map value
  | []         => rfl
  | t :: terms => by rw [values, values_eq_map terms, List.map_cons]

/-- The text of a recipe line. -/
def joined (terms : List Term) : String := " ".intercalate (values terms)

def name? : Term → Option String
  | identifier name  => some name
  | reference name _ => some name
  | command _        => none

/-- Identifiers and variables may stand anywhere in a rule. -/
def isSimple : Term → Bool
  | command _ => false
  | _         => true

end Term
end RuleFile
