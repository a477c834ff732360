/-!
# Sets of code points

A property of characters is held as the list of the ranges of code points that
have it, both ends included.
-/

namespace StaticSite.Text

/-- Ranges of code points, both ends included. -/
abbrev CodePoints := List (Nat × Nat)

def CodePoints.contains (ranges : CodePoints) (c : Char) : Bool :=
  ranges.any fun range => range.1 ≤ c.toNat && c.toNat ≤ range.2

end StaticSite.Text
