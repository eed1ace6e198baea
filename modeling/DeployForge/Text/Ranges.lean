/-! Sets of characters given as sorted, disjoint ranges of code points. -/

namespace DeployForge.Text

abbrev Ranges := List (Nat × Nat)

def Ranges.contains (ranges : Ranges) (c : Char) : Bool :=
  ranges.any fun (low, high) => low ≤ c.toNat && c.toNat ≤ high

end DeployForge.Text
