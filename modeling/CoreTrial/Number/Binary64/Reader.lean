import CoreTrial.Number.Binary64.Basic

/-!
# Numbers from text

Reads a decimal, with an optional sign, point and exponent, or one of the words for infinity
and for no number in any case. The result is the number nearest to the exact value.
-/

set_option autoImplicit false

namespace CoreTrial.Number.Binary64

/-- The number nearest to `digits · 10 ^ exponent`. Exponents that no finite number reaches are
settled before the power is computed. -/
def ofDecimal (negative : Bool) (digits : Nat) (exponent : Int) : Binary64 :=
  let reach : Int := exponent + digitCount digits
  if digits = 0 then zero negative
  else if 400 < reach then infinity negative
  else if reach < -400 then zero negative
  else ofRatio negative (digits * Nat.pow 10 exponent.toNat) (Nat.pow 10 (-exponent).toNat)

/-- The longest run of digits at the start, and what follows it. -/
def takeDigits (s : List Char) : List Char × List Char :=
  (s.takeWhile Char.isDigit, s.dropWhile Char.isDigit)

/-- The exponent that a text denotes from its mark to its end. -/
def readExponent? (s : List Char) : Option Int :=
  match s with
  | '+' :: rest => (readNat? rest).map Int.ofNat
  | '-' :: rest => (readNat? rest).map fun n => -(n : Int)
  | rest => (readNat? rest).map Int.ofNat

/-- The number that an unsigned decimal denotes. -/
def readDecimal? (negative : Bool) (s : List Char) : Option Binary64 := do
  let (whole, rest) := takeDigits s
  let (fraction, rest) := match rest with
    | '.' :: r => takeDigits r
    | r => ([], r)
  if whole.isEmpty && fraction.isEmpty then none
  let exponent ← match rest with
    | [] => some 0
    | c :: r => if c = 'e' ∨ c = 'E' then readExponent? r else none
  return ofDecimal negative (ofDigits (whole ++ fraction)) (exponent - fraction.length)

/-- The number that a text denotes. -/
def read? (s : String) : Option Binary64 :=
  let (negative, rest) := match s.toList with
    | '-' :: r => (true, r)
    | '+' :: r => (false, r)
    | r => (false, r)
  let word := String.ofList (rest.map Char.toLower)
  if word == "inf" || word == "infinity" then some (infinity negative)
  else if word == "nan" then some (if negative then neg nan else nan)
  else readDecimal? negative rest

end CoreTrial.Number.Binary64
