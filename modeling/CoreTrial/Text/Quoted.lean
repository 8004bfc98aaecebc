import CoreTrial.Number.Hex
import CoreTrial.Text.Printable

/-!
# Quoted text

A text in double quotes, as messages show it. A quote and a backslash follow a backslash, the
common controls have letters, and any other character that is not printable is written by its
code point.
-/

set_option autoImplicit false

namespace CoreTrial.Text

/-- One character inside quotes. -/
def quotedChar (c : Char) : List Char :=
  if c = '"' then ['\\', '"']
  else if c = '\\' then ['\\', '\\']
  else if c = '\n' then ['\\', 'n']
  else if c = '\t' then ['\\', 't']
  else if c = '\r' then ['\\', 'r']
  else if c.toNat = 0 then ['\\', '0']
  else if isPrintable c then [c]
  else ['\\', 'u', '\x7b'] ++ Number.hexShort c.toNat ++ ['\x7d']

/-- A text in double quotes. -/
def quoted (s : String) : String :=
  String.ofList ('"' :: s.toList.flatMap quotedChar ++ ['"'])

end CoreTrial.Text
