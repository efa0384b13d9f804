/-!
# Ranges of code points

A class of characters is given by the inclusive ranges of its code points.
-/

namespace Offload.Text

/-- The code point of the character lies in one of the inclusive ranges. -/
def inRanges (ranges : List (Nat × Nat)) (c : Char) : Bool :=
  ranges.any fun range => range.1 ≤ c.toNat && c.toNat ≤ range.2

end Offload.Text
