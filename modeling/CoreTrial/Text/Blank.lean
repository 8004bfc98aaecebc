import CoreTrial.Text.CodePoints

/-!
# Blank characters

The characters with Unicode's property White_Space: what trimming removes, and what makes an
argument need quotes.
-/

set_option autoImplicit false

namespace CoreTrial.Text

/-- The blank characters beyond ASCII. -/
def blanksBeyondAscii : CodePoints where
  ranges := [
    (0x85, 0x85), (0xA0, 0xA0), (0x1680, 0x1680), (0x2000, 0x200A), (0x2028, 0x2029),
    (0x202F, 0x202F), (0x205F, 0x205F), (0x3000, 0x3000)]

/-- A blank character: space, tab, line feed, vertical tab, form feed, carriage return, or one
beyond ASCII. -/
def isBlank (c : Char) : Bool :=
  if c.toNat < 128 then c == ' ' || (decide (9 ≤ c.toNat) && decide (c.toNat ≤ 13))
  else blanksBeyondAscii.contains c

/-- The text without its leading blanks. -/
def trimLeft (s : List Char) : List Char :=
  s.dropWhile isBlank

/-- The text without its trailing blanks. -/
def trimRight (s : List Char) : List Char :=
  (s.reverse.dropWhile isBlank).reverse

/-- The text without its leading and trailing blanks. -/
def trim (s : List Char) : List Char :=
  trimRight (trimLeft s)

end CoreTrial.Text
