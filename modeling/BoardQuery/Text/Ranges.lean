/-!
# Sets of code points

A property of characters is a list of ranges of code points, each with both its ends.
-/

namespace BoardQuery.Text

abbrev Ranges := List (Nat × Nat)

def Ranges.contains (rs : Ranges) (n : Nat) : Bool :=
  rs.any fun r => r.1 ≤ n && n ≤ r.2

end BoardQuery.Text
