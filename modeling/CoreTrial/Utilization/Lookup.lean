import CoreTrial.Text.Search
import CoreTrial.Text.WordChar
import CoreTrial.Text.DecimalDigit
import CoreTrial.Number.Decimal

/-!
# Percentages in a report

An entry of a utilization report is a key, a colon, at most one space, a run of decimal digits
and a percent sign, where the key starts at a word boundary. The first entry of a key counts,
whether its digits can be read or not.
-/

set_option autoImplicit false

namespace CoreTrial.Utilization

/-- What a report says about a key. -/
inductive Lookup where
  | found (percent : UInt32)
  /-- The digits are not all of ASCII, or denote a number beyond 32 bits. -/
  | unreadable (digits : String)
  | missing
  deriving DecidableEq, Repr

/-- The least number beyond 32 bits. -/
def percentLimit : Nat := UInt32.size

/-- The number of a run of decimal digits. -/
def readPercent (digits : List Char) : Lookup :=
  match Number.readNat? digits with
  | some n =>
    if n < percentLimit then .found (UInt32.ofNat n) else .unreadable (String.ofList digits)
  | none => .unreadable (String.ofList digits)

/-- The percentage, where there is one. -/
def Lookup.percent? : Lookup → Option UInt32
  | .found n => some n
  | _ => none

/-- The text without one leading space. -/
def skipSpace : List Char → List Char
  | ' ' :: rest => rest
  | s => s

/-- The digits of an entry, from its colon on: a colon, at most one space, digits and a percent
sign. -/
def digitsAfterKey? (s : List Char) : Option (List Char) :=
  match s with
  | ':' :: rest =>
    let run := (skipSpace rest).takeWhile Text.isDecimalDigit
    if run.isEmpty then none
    else if ((skipSpace rest).drop run.length).head? = some '%' then some run else none
  | _ => none

/-- The digits of an entry of `key` at the start of `s`, which follows the character `before`. -/
def entryOf? (key : List Char) (before : Option Char) (s : List Char) : Option (List Char) :=
  if Text.isWordBoundary before s.head? then (Text.after? key s).bind digitsAfterKey? else none

/-- The digits of the first entry of `key` in a text that follows the character `before`. -/
def firstDigits? (key : List Char) : Option Char → List Char → Option (List Char)
  | before, [] => entryOf? key before []
  | before, c :: rest =>
    match entryOf? key before (c :: rest) with
    | some digits => some digits
    | none => firstDigits? key (some c) rest

/-- What a report says about a key. -/
def lookup (text key : String) : Lookup :=
  match firstDigits? key.toList none text.toList with
  | some digits => readPercent digits
  | none => .missing

/-- The percentage that a report gives a key. -/
def percentage? (text key : String) : Option UInt32 :=
  (lookup text key).percent?

end CoreTrial.Utilization
