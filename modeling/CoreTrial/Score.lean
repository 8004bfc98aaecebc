import CoreTrial.Utilization.Lookup
import CoreTrial.Number.Binary64.Printer
import CoreTrial.Json.Record

/-!
# Scores

A design scores by speed and size: the inverse of its time, times the inverse of the share of
the device it takes, times a constant. A design whose share is not reported counts as taking all
of the device, and one that takes nothing as taking one percent.
-/

set_option autoImplicit false

namespace CoreTrial

open Number (Binary64)

/-- The score of a design. -/
structure Score where
  value : Binary64
  elapsedSeconds : Binary64
  resourceKey : String
  utilizationPercent : UInt32
  /-- The report does not tell the share. -/
  defaulted : Bool
  /-- The reported share is zero. -/
  clamped : Bool
  deriving DecidableEq, Repr

/-- There is no score of a time that is not a positive number. -/
structure NonPositiveElapsed where
  elapsed : Binary64
  deriving DecidableEq, Repr

/-- The text of the error. -/
def NonPositiveElapsed.message (e : NonPositiveElapsed) : String :=
  "Elapsed time must be positive and finite, got " ++ e.elapsed.toText

namespace Score

/-- The share of a design whose share is not reported. -/
def defaultPercent : UInt32 := 100

/-- The least share that counts. -/
def leastPercent : UInt32 := 1

/-- The constant factor of a score. -/
def scaleConstant : Binary64 := 1000

/-- The score of a time, by the share that a report gives to a resource. -/
def of (elapsed : Binary64) (report key : String) : Except NonPositiveElapsed Score :=
  if elapsed.isPositiveFinite then
    let reported := Utilization.percentage? report key
    let percent := reported.getD defaultPercent
    let counted := if percent < leastPercent then leastPercent else percent
    .ok {
      value := (1 / elapsed) * (100 / Binary64.ofNat counted.toNat) * scaleConstant
      elapsedSeconds := elapsed
      resourceKey := key
      utilizationPercent := counted
      defaulted := reported.isNone
      clamped := decide (percent < leastPercent) }
  else .error ⟨elapsed⟩

/-- The score with what it is made of. -/
def describe (s : Score) : String :=
  s.value.toFixed 2 ++ " (time=" ++ s.elapsedSeconds.toFixed 4 ++ "s, " ++ s.resourceKey ++ "="
    ++ toString s.utilizationPercent.toNat ++ "%)"

/-- The record of a score. -/
def toJson (s : Score) : Json :=
  .object [
    ("value", .float s.value),
    ("elapsed_seconds", .float s.elapsedSeconds),
    ("resource_key", .string s.resourceKey),
    ("utilization_percent", .nat s.utilizationPercent.toNat),
    ("defaulted", .bool s.defaulted),
    ("clamped", .bool s.clamped)]

/-- Reads the record of a score. -/
def ofJson? (j : Json) : Option Score :=
  match Json.slots? ["value", "elapsed_seconds", "resource_key", "utilization_percent",
      "defaulted", "clamped"] j with
  | some [value, elapsed, key, percent, defaulted, clamped] => do
    return {
      value := ← value.required Json.float?
      elapsedSeconds := ← elapsed.required Json.float?
      resourceKey := ← key.required Json.string?
      utilizationPercent := ← percent.required Json.word32?
      defaulted := ← defaulted.required Json.bool?
      clamped := ← clamped.required Json.bool? }
  | _ => none

end Score

end CoreTrial
