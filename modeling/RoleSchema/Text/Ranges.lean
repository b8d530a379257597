/-!
# Ranges of code points

A class of characters is given by ranges of code points, each by its first and its last one.
-/

namespace RoleSchema.Text

/-- Whether a code point lies in one of the ranges. -/
def inRanges (ranges : List (Nat × Nat)) (n : Nat) : Bool :=
  ranges.any fun r => r.1 ≤ n && n ≤ r.2

end RoleSchema.Text
