import CoreTrial.Number.Decimal

/-!
# Binary64 numbers

A binary64 number is its 64 bits. Its magnitude is `significand · 2 ^ power` exactly, and every
operation rounds the exact result once, to nearest, a tie to the even neighbour: all of them
end in `ofRatio`, which rounds a quotient of naturals.
-/

set_option autoImplicit false

namespace CoreTrial.Number

/-- A binary64 number, as its bits. -/
structure Binary64 where
  bits : UInt64
  deriving DecidableEq, Repr

namespace Binary64

/-- The bits of infinity, without the sign. -/
def infinityBits : Nat := 0x7FF0000000000000

/-- The bits without the sign. -/
def magnitude (x : Binary64) : Nat :=
  x.bits.toNat % Nat.pow 2 63

/-- The sign bit. -/
def isNegative (x : Binary64) : Bool :=
  decide (Nat.pow 2 63 ≤ x.bits.toNat)

/-- Not a number. -/
def isNaN (x : Binary64) : Bool :=
  decide (infinityBits < x.magnitude)

/-- One of the two infinities. -/
def isInfinite (x : Binary64) : Bool :=
  x.magnitude == infinityBits

/-- Neither infinite nor not a number. -/
def isFinite (x : Binary64) : Bool :=
  decide (x.magnitude < infinityBits)

/-- One of the two zeros. -/
def isZero (x : Binary64) : Bool :=
  x.magnitude == 0

/-- Finite and greater than zero. -/
def isPositiveFinite (x : Binary64) : Bool :=
  x.isFinite && !x.isNegative && !x.isZero

/-- The biased exponent. -/
def exponentField (x : Binary64) : Nat :=
  x.magnitude / Nat.pow 2 52

/-- The integer factor of a finite magnitude. -/
def significand (x : Binary64) : Nat :=
  if x.exponentField = 0 then x.magnitude % Nat.pow 2 52
  else x.magnitude % Nat.pow 2 52 + Nat.pow 2 52

/-- The power of two in a finite magnitude, raised by 1074. -/
def raisedPower (x : Binary64) : Nat :=
  x.exponentField - 1

/-- The power of two in a finite magnitude. -/
def power (x : Binary64) : Int :=
  (x.raisedPower : Int) - 1074

/-- The numerator of the exact magnitude. -/
def num (x : Binary64) : Nat :=
  x.significand * Nat.pow 2 (x.raisedPower - 1074)

/-- The denominator of the exact magnitude. -/
def den (x : Binary64) : Nat :=
  Nat.pow 2 (1074 - x.raisedPower)

/-- The number with this sign and these bits below the sign. -/
def ofMagnitude (negative : Bool) (magnitude : Nat) : Binary64 :=
  ⟨UInt64.ofNat (magnitude + if negative then Nat.pow 2 63 else 0)⟩

/-- Zero of either sign. -/
def zero (negative : Bool) : Binary64 :=
  ofMagnitude negative 0

/-- Infinity of either sign. -/
def infinity (negative : Bool) : Binary64 :=
  ofMagnitude negative infinityBits

/-- A value that is not a number. -/
def nan : Binary64 :=
  ⟨0x7FF8000000000000⟩

/-- The power of two of the last place of `num / den`, raised by 1074: 53 bits are kept, and
none below the least power. -/
def lastPlace (num den : Nat) : Nat :=
  let estimate : Int := (num.log2 : Int) - (den.log2 : Int)
  let floorLog : Int :=
    if num * Nat.pow 2 (-estimate).toNat < den * Nat.pow 2 estimate.toNat then estimate - 1
    else estimate
  (floorLog - 52 + 1074).toNat

/-- The bits of the magnitude nearest to `num / den`, a tie to the even one. -/
def magnitudeOfRatio (num den : Nat) : Nat :=
  let place := lastPlace num den
  let kept := roundHalfEven (num * Nat.pow 2 (1074 - place)) (den * Nat.pow 2 (place - 1074))
  min (place * Nat.pow 2 52 + kept) infinityBits

/-- The number nearest to `num / den` with the given sign, a tie to the even one. -/
def ofRatio (negative : Bool) (num den : Nat) : Binary64 :=
  if num = 0 then zero negative else ofMagnitude negative (magnitudeOfRatio num den)

/-- The number nearest to a natural. -/
def ofNat (n : Nat) : Binary64 :=
  ofRatio false n 1

/-- The number nearest to an integer. -/
def ofInt (n : Int) : Binary64 :=
  ofRatio (decide (n < 0)) n.natAbs 1

/-- The same magnitude with the other sign. -/
def neg (x : Binary64) : Binary64 :=
  ofMagnitude (!x.isNegative) x.magnitude

/-- The rounded product. -/
def mul (x y : Binary64) : Binary64 :=
  let negative := x.isNegative != y.isNegative
  if x.isNaN || y.isNaN then nan
  else if x.isInfinite || y.isInfinite then
    if x.isZero || y.isZero then nan else infinity negative
  else ofRatio negative (x.num * y.num) (x.den * y.den)

/-- The rounded quotient. -/
def div (x y : Binary64) : Binary64 :=
  let negative := x.isNegative != y.isNegative
  if x.isNaN || y.isNaN then nan
  else if x.isInfinite then
    if y.isInfinite then nan else infinity negative
  else if y.isInfinite then zero negative
  else if y.isZero then
    if x.isZero then nan else infinity negative
  else ofRatio negative (x.num * y.den) (x.den * y.num)

/-- The exact value of a finite number over the denominator `x.den`. -/
def signedNum (x : Binary64) : Int :=
  if x.isNegative then -(x.num : Int) else x.num

/-- The rounded sum. -/
def add (x y : Binary64) : Binary64 :=
  if x.isNaN || y.isNaN then nan
  else if x.isInfinite then
    if y.isInfinite && (x.isNegative != y.isNegative) then nan else x
  else if y.isInfinite then y
  else
    let sum := x.signedNum * y.den + y.signedNum * x.den
    let negative := if sum = 0 then x.isNegative && y.isNegative else decide (sum < 0)
    ofRatio negative sum.natAbs (x.den * y.den)

instance : Mul Binary64 := ⟨mul⟩
instance : Div Binary64 := ⟨div⟩
instance : Add Binary64 := ⟨add⟩
instance : Neg Binary64 := ⟨neg⟩
instance {n : Nat} : OfNat Binary64 n := ⟨ofNat n⟩

/-- The least natural not below the number, held within 0 and `limit`; nothing counts as 0
that is not a number. -/
def ceilWithin (limit : Nat) (x : Binary64) : Nat :=
  if x.isNaN || x.isNegative then 0
  else if x.isInfinite then limit
  else min (ceilDiv x.num x.den) limit

/-- The nearest natural, a tie upwards, held within 0 and `limit`; nothing counts as 0 that is
not a number. -/
def roundWithin (limit : Nat) (x : Binary64) : Nat :=
  if x.isNaN || x.isNegative then 0
  else if x.isInfinite then limit
  else min (roundHalfUp x.num x.den) limit

end Binary64

end CoreTrial.Number
