import CoreTrial.Json.Basic
import CoreTrial.Number.Binary64.Printer
import CoreTrial.Number.Hex

/-!
# Writing JSON

`compact` writes a value without blanks, `pretty` with one field or item a line, indented by two
spaces for each level.
-/

set_option autoImplicit false

namespace CoreTrial.Json

/-- Numbers that have no digits are written as null, and a positive exponent has a plus. -/
def floatStyle : Number.Binary64.RecordStyle where
  exponentPlus := "+"
  nan := "null"
  infinity := "null"
  minusInfinity := "null"

/-- One character of a string. -/
def escapedChar (c : Char) : List Char :=
  if c = '"' then ['\\', '"']
  else if c = '\\' then ['\\', '\\']
  else if c = '\n' then ['\\', 'n']
  else if c = '\r' then ['\\', 'r']
  else if c = '\t' then ['\\', 't']
  else if c = '\x08' then ['\\', 'b']
  else if c = '\x0c' then ['\\', 'f']
  else if c.toNat < 32 then ['\\', 'u'] ++ Number.hexPlaces .lower 4 c.toNat
  else [c]

/-- A string in quotes. -/
def stringText (s : String) : String :=
  String.ofList ('"' :: s.toList.flatMap escapedChar ++ ['"'])

/-- A value without items or fields. -/
def leafText : Json → String
  | .bool b => if b then "true" else "false"
  | .int n => toString n
  | .float x => x.toRecord floatStyle
  | .string s => stringText s
  | _ => "null"

mutual

/-- A value without blanks. -/
def compact : Json → String
  | .array items => "[" ++ compactItems "" items ++ "]"
  | .object fields => "\x7b" ++ compactFields "" fields ++ "\x7d"
  | v => leafText v

/-- Items after `separator`. -/
def compactItems (separator : String) : List Json → String
  | [] => ""
  | v :: rest => separator ++ compact v ++ compactItems "," rest

/-- Fields after `separator`. -/
def compactFields (separator : String) : List (String × Json) → String
  | [] => ""
  | (name, v) :: rest =>
    separator ++ stringText name ++ ":" ++ compact v ++ compactFields "," rest

end

/-- A new line at a level. -/
def newLine (level : Nat) : String :=
  "\n" ++ String.ofList (List.replicate (2 * level) ' ')

mutual

/-- A value whose closing bracket stands at `level`. -/
def prettyAt (level : Nat) : Json → String
  | .array [] => "[]"
  | .object [] => "\x7b\x7d"
  | .array items => "[" ++ prettyItems (level + 1) "" items ++ newLine level ++ "]"
  | .object fields => "\x7b" ++ prettyFields (level + 1) "" fields ++ newLine level ++ "\x7d"
  | v => leafText v

/-- Items on lines of their own. -/
def prettyItems (level : Nat) (separator : String) : List Json → String
  | [] => ""
  | v :: rest =>
    separator ++ newLine level ++ prettyAt level v ++ prettyItems level "," rest

/-- Fields on lines of their own. -/
def prettyFields (level : Nat) (separator : String) : List (String × Json) → String
  | [] => ""
  | (name, v) :: rest =>
    separator ++ newLine level ++ stringText name ++ ": " ++ prettyAt level v
      ++ prettyFields level "," rest

end

/-- A value over several lines. -/
def pretty (v : Json) : String :=
  prettyAt 0 v

end CoreTrial.Json
