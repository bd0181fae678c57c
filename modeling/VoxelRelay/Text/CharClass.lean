/-!
# Classes of characters

A class of characters is given by closed ranges of code points, in ascending
order.
-/

namespace VoxelRelay.Text

/-- A class of characters. -/
structure CharClass where
  /-- The lowest and highest code point of each run of members. -/
  ranges : List (Nat × Nat)

/-- Whether a character belongs to a class. -/
def CharClass.contains (members : CharClass) (c : Char) : Bool :=
  members.ranges.any fun (low, high) => low ≤ c.toNat && c.toNat ≤ high

end VoxelRelay.Text
