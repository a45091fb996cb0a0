/-! # Ranges of characters

    A property of characters is given as the ranges of code points that have
    it, both ends included. -/

namespace PodPlacement.Text

/-- The code point of `c` lies in one of the ranges. -/
def inRanges (ranges : List (Nat × Nat)) (c : Char) : Bool :=
  ranges.any fun (low, high) => low ≤ c.toNat && c.toNat ≤ high

end PodPlacement.Text
