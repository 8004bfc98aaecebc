/-!
# Decimal digits

Reading and writing of naturals with the digits of ASCII.
-/

set_option autoImplicit false

namespace CoreTrial.Number

/-- The value of a digit. -/
def digitValue (c : Char) : Nat :=
  c.toNat - 48

/-- The number that a run of digits denotes. -/
def ofDigits (s : List Char) : Nat :=
  s.foldl (fun n c => n * 10 + digitValue c) 0

/-- The number that a text of digits alone denotes; leading zeros are allowed. -/
def readNat? (s : List Char) : Option Nat :=
  if s.isEmpty || !s.all Char.isDigit then none else some (ofDigits s)

/-- The digits of `n`, without leading zeros. -/
def digits (n : Nat) : List Char :=
  Nat.toDigits 10 n

/-- The digits of `n`, with zeros in front up to `width` of them. -/
def padded (width n : Nat) : List Char :=
  List.replicate (width - (digits n).length) '0' ++ digits n

/-- The number of decimal digits of `n`; zero has none. -/
def digitCount (n : Nat) : Nat :=
  if n = 0 then 0 else (digits n).length

/-- Rounds `num / den` to the nearest natural, a tie to the even one. -/
def roundHalfEven (num den : Nat) : Nat :=
  let q := num / den
  let r := num % den
  if 2 * r < den then q
  else if den < 2 * r then q + 1
  else if q % 2 = 0 then q
  else q + 1

/-- Rounds `num / den` to the nearest natural, a tie upwards. -/
def roundHalfUp (num den : Nat) : Nat :=
  (2 * num + den) / (2 * den)

/-- The least natural not below `num / den`. -/
def ceilDiv (num den : Nat) : Nat :=
  (num + (den - 1)) / den

/-- `num / den` with `places` digits after the point, a tie to the even neighbour. -/
def fixedPlaces (places num den : Nat) : List Char :=
  let scaled := roundHalfEven (num * Nat.pow 10 places) den
  let whole := digits (scaled / Nat.pow 10 places)
  if places = 0 then whole else whole ++ '.' :: padded places (scaled % Nat.pow 10 places)

end CoreTrial.Number
