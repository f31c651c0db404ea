/-!
# Ranges of code points

A character class is a list of closed ranges in ascending order, so a look-up stops at the first range that starts
above the code point.
-/
namespace RuleFile.Text

def inRanges : List (Nat × Nat) → Nat → Bool
  | [],               _ => false
  | (lo, hi) :: rest, n => if n < lo then false else if n ≤ hi then true else inRanges rest n

end RuleFile.Text
