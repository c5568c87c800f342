/-!
# Sets of code points

A property of characters is given by the ranges of code points that have it,
both ends included, in ascending order.
-/

namespace LS8.Text

/-- Some ranges of code points, each from its first to its last member. -/
abbrev CodePoints := List (Nat × Nat)

namespace CodePoints

def contains (ranges : CodePoints) (c : Char) : Bool :=
  ranges.any fun (first, last) => first ≤ c.toNat && c.toNat ≤ last

end CodePoints

end LS8.Text
