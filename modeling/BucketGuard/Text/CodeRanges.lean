namespace BucketGuard

/-! Sets of characters as ascending ranges of code points, both ends included. -/

abbrev CodeRanges := List (Nat × Nat)

namespace CodeRanges

/-- The ranges ascend, so the search ends at the first one that reaches the point. -/
def contains : CodeRanges → Nat → Bool
  | [], _ => false
  | (first, last) :: rest, point =>
      if last < point then contains rest point else first ≤ point

end CodeRanges

end BucketGuard
