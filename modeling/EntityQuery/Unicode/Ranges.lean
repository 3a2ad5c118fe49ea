/-!
Properties of characters are lists of closed ranges of code points, ascending and apart.
-/
namespace EntityQuery.Unicode

/-- Whether `n` lies in one of the ranges; the search ends at the first range above `n`. -/
def inRanges : List (Nat × Nat) → Nat → Bool
  | [], _ => false
  | (lo, hi) :: rest, n => if n < lo then false else n ≤ hi || inRanges rest n

end EntityQuery.Unicode
