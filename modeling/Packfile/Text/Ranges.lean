/-!
# Sets of characters as ranges

A set of characters is written as the list of its maximal ranges, in increasing order and with
both ends included.
-/

namespace Packfile.Text

/-- Whether a character lies in one of the ranges. -/
def inRanges (ranges : List (Nat × Nat)) (c : Char) : Bool :=
  ranges.any fun (first, last) => first ≤ c.toNat && c.toNat ≤ last

end Packfile.Text
