import CoreTrial.Number.Binary64.Shortest

/-!
# Numbers as text

Three ways to write a binary64 number: the shortest digits without an exponent (messages), a
fixed number of places (scores and times), and the shortest digits with an exponent where the
number is very large or very small (records).
-/

set_option autoImplicit false

namespace CoreTrial.Number.Binary64

/-- The sign of a number that is written. -/
def signText (x : Binary64) : String :=
  if x.isNegative then "-" else ""

/-- The digits of `d` without an exponent, and without a point where none is needed. -/
def positional (d : ShortDecimal) : List Char :=
  let ds := digits d.digits
  if 0 ≤ d.exponent then
    if d.digits = 0 then ['0'] else ds ++ List.replicate d.exponent.toNat '0'
  else
    let places := (-d.exponent).toNat
    if places < ds.length then
      ds.take (ds.length - places) ++ '.' :: ds.drop (ds.length - places)
    else ['0', '.'] ++ List.replicate (places - ds.length) '0' ++ ds

/-- The shortest digits that read back, never with an exponent: `1`, `0.1`, `-0`, `NaN`, `inf`. -/
def toText (x : Binary64) : String :=
  if x.isNaN then "NaN"
  else if x.isInfinite then x.signText ++ "inf"
  else x.signText ++ String.ofList (positional x.shortest)

/-- The exact value rounded to `places` digits after the point, a tie to the even neighbour. -/
def toFixed (places : Nat) (x : Binary64) : String :=
  if x.isNaN then "NaN"
  else if x.isInfinite then x.signText ++ "inf"
  else x.signText ++ String.ofList (fixedPlaces places x.num x.den)

/-- How records write a number: texts of the values that have no digits, and the mark of a
positive exponent. -/
structure RecordStyle where
  exponentPlus : String
  nan : String
  infinity : String
  minusInfinity : String

/-- The shortest digits that read back. From `10 ^ -5` up to `10 ^ 16` they are written with a
point and at least one digit after it, beyond with an exponent. -/
def toRecord (style : RecordStyle) (x : Binary64) : String :=
  if x.isNaN then style.nan
  else if x.isInfinite then (if x.isNegative then style.minusInfinity else style.infinity)
  else
    let d := x.shortest
    let ds := digits d.digits
    let leading : Int := d.exponent + ds.length - 1
    if d.digits = 0 then x.signText ++ "0.0"
    else if -5 ≤ leading ∧ leading ≤ 15 then
      let text := String.ofList (positional d)
      x.signText ++ text ++ (if 0 ≤ d.exponent then ".0" else "")
    else
      let mantissa := match ds with
        | [] => []
        | [c] => [c]
        | c :: rest => c :: '.' :: rest
      let exponent := if 0 ≤ leading then style.exponentPlus ++ toString leading.toNat
        else "-" ++ toString (-leading).toNat
      x.signText ++ String.ofList mantissa ++ "e" ++ exponent

end CoreTrial.Number.Binary64
