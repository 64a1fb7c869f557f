/-!
# Sets of code points

A property of characters that no rule describes is kept as the ranges of code points that have it,
both ends included, in ascending order.
-/

namespace FileMode.Text

/-- Whether a character lies in one of the ranges. -/
def inRanges (ranges : List (Nat × Nat)) (c : Char) : Bool :=
  ranges.any fun range => range.1 ≤ c.toNat && c.toNat ≤ range.2

end FileMode.Text
