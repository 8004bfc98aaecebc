/-!
# Hexadecimal digits
-/

set_option autoImplicit false

namespace CoreTrial.Number

/-- Which letters write the digits from ten on. -/
inductive HexCase where
  | upper
  | lower
  deriving DecidableEq

/-- The digit of a number below sixteen. -/
def hexDigit (letters : HexCase) (n : Nat) : Char :=
  if n < 10 then Char.ofNat (48 + n)
  else match letters with
    | .upper => Char.ofNat (55 + n)
    | .lower => Char.ofNat (87 + n)

/-- The lowest `places` hexadecimal digits of `n`, highest first. -/
def hexPlaces (letters : HexCase) : Nat → Nat → List Char
  | 0, _ => []
  | places + 1, n => hexPlaces letters places (n / 16) ++ [hexDigit letters (n % 16)]

/-- The eight hexadecimal digits of a word. -/
def hexWord (letters : HexCase) (w : UInt32) : List Char :=
  hexPlaces letters 8 w.toNat

/-- The hexadecimal digits of `n` without leading zeros, in lower case. -/
def hexShort (n : Nat) : List Char :=
  Nat.toDigits 16 n

/-- The value of a hexadecimal digit in either case. -/
def hexValue? (c : Char) : Option Nat :=
  if '0' ≤ c ∧ c ≤ '9' then some (c.toNat - 48)
  else if 'a' ≤ c ∧ c ≤ 'f' then some (c.toNat - 87)
  else if 'A' ≤ c ∧ c ≤ 'F' then some (c.toNat - 55)
  else none

/-- The number that hexadecimal digits denote, where all are digits. -/
def readHex? (s : List Char) : Option Nat :=
  s.foldl (fun n c => do return (← n) * 16 + (← hexValue? c)) (some 0)

end CoreTrial.Number
