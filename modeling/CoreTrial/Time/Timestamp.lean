import CoreTrial.Number.Decimal
import CoreTrial.Text.Blank

/-!
# Timestamps

An instant in universal time, and its text by RFC 3339. A leap second is the second before it
with a billion nanoseconds or more. Reading is relaxed: blanks may stand between the fields, a
space may stand for the `T`, and any offset is moved to universal time.
-/

set_option autoImplicit false

namespace CoreTrial

/-- An instant: whole seconds since 1970-01-01T00:00:00Z, and nanoseconds. -/
structure Timestamp where
  seconds : Int
  nanos : Nat
  deriving DecidableEq, Repr

/-- A day of the proleptic Gregorian calendar. -/
structure CalendarDay where
  year : Int
  month : Nat
  day : Nat
  deriving DecidableEq, Repr

namespace CalendarDay

/-- Every fourth year, but of the full centuries only every fourth. -/
def isLeapYear (year : Int) : Bool :=
  year % 4 == 0 && (year % 100 != 0 || year % 400 == 0)

/-- The days of a month. -/
def daysInMonth (year : Int) (month : Nat) : Nat :=
  if month = 2 then (if isLeapYear year then 29 else 28)
  else if month = 4 ∨ month = 6 ∨ month = 9 ∨ month = 11 then 30
  else 31

/-- The days from 1970-01-01 to a day. Years are counted from March, in eras of 400. -/
def toDays (d : CalendarDay) : Int :=
  let year := if d.month ≤ 2 then d.year - 1 else d.year
  let era := year / 400
  let yearOfEra := year % 400
  let month : Int := (d.month + 9) % 12
  let dayOfYear := (153 * month + 2) / 5 + d.day - 1
  let dayOfEra := yearOfEra * 365 + yearOfEra / 4 - yearOfEra / 100 + dayOfYear
  era * 146097 + dayOfEra - 719468

/-- The day that lies `n` days after 1970-01-01. -/
def ofDays (n : Int) : CalendarDay :=
  let shifted := n + 719468
  let era := shifted / 146097
  let dayOfEra := shifted % 146097
  let yearOfEra := (dayOfEra - dayOfEra / 1460 + dayOfEra / 36524 - dayOfEra / 146096) / 365
  let dayOfYear := dayOfEra - (365 * yearOfEra + yearOfEra / 4 - yearOfEra / 100)
  let month := (5 * dayOfYear + 2) / 153
  let day := (dayOfYear - (153 * month + 2) / 5 + 1).toNat
  let civilMonth := if month < 10 then (month + 3).toNat else (month - 9).toNat
  let year := yearOfEra + era * 400
  ⟨if civilMonth ≤ 2 then year + 1 else year, civilMonth, day⟩

end CalendarDay

namespace Timestamp

/-- Two digits. -/
def two (n : Nat) : String := String.ofList (Number.padded 2 n)

/-- A year in four digits, with a sign where it has more or lies before the year 0. -/
def yearText (year : Int) : String :=
  if 0 ≤ year ∧ year ≤ 9999 then String.ofList (Number.padded 4 year.toNat)
  else (if year < 0 then "-" else "+") ++ String.ofList (Number.padded 4 year.natAbs)

/-- No fraction, or the fewest of 3, 6 and 9 digits that show all of it. -/
def fractionText (nanos : Nat) : String :=
  if nanos = 0 then ""
  else if nanos % 1000000 = 0 then "." ++ String.ofList (Number.padded 3 (nanos / 1000000))
  else if nanos % 1000 = 0 then "." ++ String.ofList (Number.padded 6 (nanos / 1000))
  else "." ++ String.ofList (Number.padded 9 nanos)

/-- The text of an instant in universal time. -/
def toText (t : Timestamp) : String :=
  let day := CalendarDay.ofDays (t.seconds / 86400)
  let clock := (t.seconds % 86400).toNat
  let leap := if 1000000000 ≤ t.nanos then 1 else 0
  yearText day.year ++ "-" ++ two day.month ++ "-" ++ two day.day ++ "T" ++ two (clock / 3600)
    ++ ":" ++ two (clock / 60 % 60) ++ ":" ++ two (clock % 60 + leap)
    ++ fractionText (t.nanos % 1000000000) ++ "Z"

/-- Between one and `most` digits at the start of a text, after blanks, and the rest. -/
def digitsUpTo (most : Nat) (s : List Char) : Option (List Char × List Char) :=
  let run := (Text.trimLeft s).takeWhile Char.isDigit
  let taken := run.take most
  if taken.isEmpty then none else some (taken, (Text.trimLeft s).drop taken.length)

/-- A number of at most `most` digits that lies in a range. -/
def field (most least greatest : Nat) (s : List Char) : Option (Nat × List Char) := do
  let (taken, rest) ← digitsUpTo most s
  let n := Number.ofDigits taken
  if least ≤ n ∧ n ≤ greatest then some (n, rest) else none

/-- A year: four digits at most, or any number of them after a sign. -/
def yearField (s : List Char) : Option (Int × List Char) :=
  match Text.trimLeft s with
  | '-' :: rest => signed rest fun n => -(n : Int)
  | '+' :: rest => signed rest Int.ofNat
  | rest => do
    let (taken, rest) ← digitsUpTo 4 rest
    return (Number.ofDigits taken, rest)
where
  signed (rest : List Char) (sign : Nat → Int) : Option (Int × List Char) :=
    let run := rest.takeWhile Char.isDigit
    if run.isEmpty then none
    else
      let year := sign (Number.ofDigits run)
      if -262143 ≤ year ∧ year ≤ 262142 then some (year, rest.drop run.length) else none

/-- The mark between two fields, with blanks before it. -/
def mark (c : Char) (s : List Char) : Option (List Char) :=
  match Text.trimLeft s with
  | d :: rest => if d = c then some rest else none
  | [] => none

/-- A fraction of a second: its first nine digits count. -/
def fractionField (s : List Char) : Option (Nat × List Char) :=
  match s with
  | '.' :: rest =>
    let run := rest.takeWhile Char.isDigit
    if run.isEmpty then none
    else
      let nine := run.take 9
      some (Number.ofDigits nine * Nat.pow 10 (9 - nine.length), rest.drop run.length)
  | _ => some (0, s)

/-- The seconds of an offset with a sign: two digits of hours, any colons and blanks, two digits
of minutes. -/
def offsetField (s : List Char) : Option (Int × List Char) := do
  let (negative, rest) ← match s with
    | '+' :: r => some (false, r)
    | '-' :: r => some (true, r)
    | '−' :: r => some (true, r)
    | _ => none
  let twoDigits (s : List Char) : Option (Nat × List Char) :=
    match s with
    | a :: b :: r => if a.isDigit && b.isDigit then some (Number.ofDigits [a, b], r) else none
    | _ => none
  let (hours, rest) ← twoDigits rest
  let (minutes, rest) ← twoDigits (rest.dropWhile fun c => c == ':' || Text.isBlank c)
  let seconds : Int := hours * 3600 + minutes * 60
  if minutes < 60 ∧ seconds < 86400 then some (if negative then -seconds else seconds, rest)
  else none

/-- The zone: `Z` or `UTC` in either case, or an offset. -/
def zoneField (s : List Char) : Option (Int × List Char) :=
  let s := Text.trimLeft s
  if (s.take 3).map Char.toLower = ['u', 't', 'c'] then some (0, s.drop 3)
  else match s with
    | 'Z' :: rest => some (0, rest)
    | 'z' :: rest => some (0, rest)
    | _ => offsetField s

/-- The instant that a text denotes. -/
def read? (s : String) : Option Timestamp := do
  let (year, s) ← yearField s.toList
  let s ← mark '-' s
  let (month, s) ← field 2 1 12 s
  let s ← mark '-' s
  let (day, s) ← field 2 1 31 s
  let s ← match s with
    | c :: rest => if c = 't' ∨ c = 'T' ∨ c = ' ' then some rest else none
    | [] => none
  let (hour, s) ← field 2 0 23 s
  let s ← mark ':' s
  let (minute, s) ← field 2 0 59 s
  let s ← mark ':' s
  let (second, s) ← field 2 0 60 s
  let (fraction, s) ← fractionField s
  let (offset, s) ← zoneField s
  if !(Text.trimLeft s).isEmpty || CalendarDay.daysInMonth year month < day then none
  let leap := if second = 60 then 1000000000 else 0
  let clock : Int := hour * 3600 + minute * 60 + min second 59
  let instant : Timestamp :=
    ⟨CalendarDay.toDays ⟨year, month, day⟩ * 86400 + clock - offset, fraction + leap⟩
  let inYear := (CalendarDay.ofDays (instant.seconds / 86400)).year
  if -262143 ≤ inYear ∧ inYear ≤ 262142 then some instant else none

/-- The instant a span of nanoseconds later. -/
def later (t : Timestamp) (nanos : Nat) : Timestamp :=
  let total := t.nanos % 1000000000 + nanos
  ⟨t.seconds + total / 1000000000, total % 1000000000⟩

/-- The order of instants. -/
def notAfter (s t : Timestamp) : Bool :=
  decide (s.seconds < t.seconds) || (s.seconds == t.seconds && decide (s.nanos ≤ t.nanos))

end Timestamp

end CoreTrial
