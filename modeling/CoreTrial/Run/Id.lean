import CoreTrial.Number.Hex
import CoreTrial.Json.Record

/-!
# Run identifiers

A run is known by a text. A fresh one is made of 122 random bits: 32 hexadecimal digits in five
groups, with the marks of a random identifier of the second variant at two places.
-/

set_option autoImplicit false

namespace CoreTrial

/-- What a run is known by. -/
structure RunId where
  text : String
  deriving DecidableEq, Repr

namespace RunId

/-- The identifier that random bits make. -/
def ofEntropy (bits : Nat) : RunId :=
  let hex (places n : Nat) := String.ofList (Number.hexPlaces .lower places n)
  ⟨hex 8 bits ++ "-" ++ hex 4 (bits / Nat.pow 2 32) ++ "-4" ++ hex 3 (bits / Nat.pow 2 48) ++ "-"
    ++ hex 1 (8 + bits / Nat.pow 2 60 % 4) ++ hex 3 (bits / Nat.pow 2 62) ++ "-"
    ++ hex 12 (bits / Nat.pow 2 74)⟩

/-- The identifier as it is shown. -/
def describe (id : RunId) : String :=
  "run:" ++ id.text

/-- The record of an identifier. -/
def toJson (id : RunId) : Json := .string id.text

/-- Reads the record of an identifier. -/
def ofJson? (j : Json) : Option RunId := (Json.string? j).map RunId.mk

end RunId

end CoreTrial
