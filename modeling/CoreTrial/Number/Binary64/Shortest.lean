import CoreTrial.Number.Binary64.Basic

/-!
# The shortest digits that read back

Of all decimals that lie in the interval rounding to a number, `shortest` takes one with the
fewest digits, and of those the nearest to the number.
-/

set_option autoImplicit false

namespace CoreTrial.Number

/-- A decimal `digits · 10 ^ exponent`. -/
structure ShortDecimal where
  digits : Nat
  exponent : Int
  deriving DecidableEq, Repr

namespace Binary64

/-- The power of ten `10 ^ e`, as numerator and denominator. -/
def tenPower (e : Int) : Nat × Nat :=
  (Nat.pow 10 e.toNat, Nat.pow 10 (-e).toNat)

/-- The halves between a finite positive number and its two neighbours, as numerators over the
denominator `4 * x.den`. -/
def halfways (x : Binary64) : Nat × Nat :=
  let unit := Nat.pow 2 (x.raisedPower - 1074)
  let lower := if x.significand = Nat.pow 2 52 ∧ 1 < x.exponentField then unit else 2 * unit
  (4 * x.num - lower, 4 * x.num + 2 * unit)

/-- The decimal `d · 10 ^ e` rounds to `x`. The halves themselves do when `x` is even. -/
def roundsTo (x : Binary64) (d : Nat) (e : Int) : Bool :=
  let (lower, upper) := x.halfways
  let (p, q) := tenPower e
  let scaled := d * p * (4 * x.den)
  if x.significand % 2 = 0 then decide (lower * q ≤ scaled) && decide (scaled ≤ upper * q)
  else decide (lower * q < scaled) && decide (scaled < upper * q)

/-- The multiples of `10 ^ e` on either side of `x`, as counts of that unit: the one not above,
and whether it is the nearer of the two. -/
def gridBelow (x : Binary64) (e : Int) : Nat × Bool :=
  let (p, q) := tenPower e
  let num := x.num * q
  let den := x.den * p
  let below := num / den
  (below, decide (2 * (num % den) < den) || (2 * (num % den) == den && below % 2 == 0))

/-- The neighbour of `x` on the grid of `10 ^ e` that rounds to `x`, the nearer if both do. -/
def onGrid? (x : Binary64) (e : Int) : Option Nat :=
  let (below, nearer) := x.gridBelow e
  let hitBelow := decide (0 < below) && x.roundsTo below e
  let hitAbove := x.roundsTo (below + 1) e
  if hitBelow && (nearer || !hitAbove) then some below
  else if hitAbove then some (below + 1)
  else none

/-- The power of ten of the first digit of a positive finite number. -/
def leadingPower (x : Binary64) : Int :=
  let estimate : Int := ((digits (x.num / x.den)).length : Int) - 1
  if x.den ≤ x.num then estimate
  else
    -- below one: count the zeros after the point
    -((digits (ceilDiv x.den x.num - 1)).length : Int)

/-- Searches the grids of the exponents `e`, `e - 1`, …, at most `places` of them. -/
def searchGrids (x : Binary64) : Nat → Int → ShortDecimal
  | 0, e =>
    let (below, nearer) := x.gridBelow e
    ⟨if nearer then below else below + 1, e⟩
  | places + 1, e =>
    match x.onGrid? e with
    | some d => ⟨d, e⟩
    | none => searchGrids x places (e - 1)

/-- Drops the zeros at the end of the digits. -/
def dropZeros : Nat → ShortDecimal → ShortDecimal
  | 0, d => d
  | fuel + 1, d =>
    if d.digits ≠ 0 ∧ d.digits % 10 = 0 then dropZeros fuel ⟨d.digits / 10, d.exponent + 1⟩ else d

/-- The shortest decimal that reads back as the magnitude of a finite number. -/
def shortest (x : Binary64) : ShortDecimal :=
  if x.isZero then ⟨0, 0⟩
  else dropZeros 20 (searchGrids x 17 (x.leadingPower + 1))

end Binary64

end CoreTrial.Number
