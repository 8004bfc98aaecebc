/-!
# Sets of code points

A property of characters, such as "is a decimal digit", is a list of closed ranges of code
points. The tables themselves stand in modules named for the property.
-/

set_option autoImplicit false

namespace CoreTrial.Text

/-- A set of code points, as closed ranges in increasing order. -/
structure CodePoints where
  ranges : List (Nat × Nat)

/-- Some range holds the code point of `c`. -/
def CodePoints.contains (s : CodePoints) (c : Char) : Bool :=
  s.ranges.any fun r => decide (r.1 ≤ c.toNat) && decide (c.toNat ≤ r.2)

end CoreTrial.Text
