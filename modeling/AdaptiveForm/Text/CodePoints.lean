/-!
# Sets of code points

The character classes of this library are sets of Unicode code points, written as the list of their
maximal intervals in ascending order. A look-up walks the list and stops as soon as the intervals
lie above the code point, so that an ASCII character is decided by the first few of them.
-/

namespace AdaptiveForm.Text

/-- A set of code points: its intervals, both ends included, in ascending order. -/
abbrev CodePoints := List (Nat × Nat)

def CodePoints.has : CodePoints → Nat → Bool
  | [], _ => false
  | (low, high) :: rest, n => if n < low then false else n ≤ high || CodePoints.has rest n

end AdaptiveForm.Text
