/-!
# Lines

A line ends at a line feed, and a carriage return right before that line feed belongs to the
line's end. A last line without a line feed counts, an empty last line does not.
-/

set_option autoImplicit false

namespace CoreTrial.Text

/-- A line that is kept backwards, without the carriage return of its end. -/
def closeLine : List Char → List Char
  | '\r' :: line => line.reverse
  | line => line.reverse

/-- `lines` in the middle of a line, whose read part is kept backwards. -/
def linesFrom (line : List Char) : List Char → List (List Char)
  | [] => if line.isEmpty then [] else [line.reverse]
  | c :: rest =>
    if c = '\n' then closeLine line :: linesFrom [] rest else linesFrom (c :: line) rest

/-- The lines of a text. -/
def lines (s : String) : List String :=
  (linesFrom [] s.toList).map String.ofList

/-- The first line of a text, or nothing of an empty text. -/
def firstLine (s : String) : String :=
  (lines s).headD ""

/-- The last `n` of a list. -/
def lastOf {α : Type} (n : Nat) (xs : List α) : List α :=
  xs.drop (xs.length - n)

example : lines "a\r\n\nb" = ["a", "", "b"] := by decide +kernel
example : lines "a\n" = ["a"] := by decide +kernel

end CoreTrial.Text
