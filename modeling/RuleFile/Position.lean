/-!
# Positions

A position is a place among the tokens of a rule file: its row, and how many tokens of that row come before it.  Both
count from zero.
-/
namespace RuleFile

structure Position where
  row    : Nat
  column : Nat
  deriving DecidableEq, Repr, Inhabited

namespace Position

def start : Position := ⟨0, 0⟩

def nextColumn (p : Position) : Position := ⟨p.row, p.column + 1⟩

def nextRow (p : Position) : Position := ⟨p.row + 1, 0⟩

/-- The phrase that ends a message about this place. -/
def phrase (p : Position) : String :=
  " at row " ++ toString p.row ++ ", column " ++ toString p.column

/-! ## Order

Positions are ordered as they are read: by row, and within a row by column. -/

instance : LT Position := ⟨fun p q => p.row < q.row ∨ p.row = q.row ∧ p.column < q.column⟩

instance (p q : Position) : Decidable (p < q) :=
  inferInstanceAs (Decidable (p.row < q.row ∨ p.row = q.row ∧ p.column < q.column))

theorem lt_iff {p q : Position} : p < q ↔ p.row < q.row ∨ p.row = q.row ∧ p.column < q.column := Iff.rfl

theorem lt_trans {p q r : Position} (h : p < q) (h' : q < r) : p < r := by
  rw [lt_iff] at *
  omega

theorem lt_nextColumn (p : Position) : p < p.nextColumn := .inr ⟨rfl, Nat.lt_succ_self _⟩

theorem lt_nextRow (p : Position) : p < p.nextRow := .inl (Nat.lt_succ_self _)

end Position
end RuleFile
