/-!
# Ranges of code points

Properties of characters are given as tables of ranges.
-/

namespace ClusterHarness.Text

abbrev CodeRange := Nat × Nat

def inRanges (ranges : List CodeRange) (c : Char) : Bool :=
  ranges.any fun (low, high) => low ≤ c.toNat && c.toNat ≤ high

end ClusterHarness.Text
