/-!
# Sets of characters as ranges

A property of characters is listed as ranges of code points with both ends included, in ascending
order.
-/
namespace StorageLayout.Text

structure CharRanges where
  ranges : List (Nat × Nat)

def CharRanges.contains (set : CharRanges) (c : Char) : Bool :=
  set.ranges.any fun (low, high) => low ≤ c.toNat && c.toNat ≤ high

end StorageLayout.Text
