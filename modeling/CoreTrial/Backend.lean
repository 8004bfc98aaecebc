import CoreTrial.Json.Record
import CoreTrial.Naming
import CoreTrial.Text.Lowercase

/-!
# Back ends

Which toolchain carries out the calls: one that only writes placeholders, or Vivado.
-/

set_option autoImplicit false

namespace CoreTrial

/-- A toolchain. -/
inductive Backend where
  | mock
  | vivado
  deriving DecidableEq, Repr

/-- A name that no back end has. -/
structure UnknownBackend where
  name : String
  deriving DecidableEq, Repr

/-- The text of the error. -/
def UnknownBackend.message (e : UnknownBackend) : String :=
  "Unknown toolchain backend: " ++ e.name

namespace Backend

/-- All back ends. -/
def all : List Backend := [.mock, .vivado]

/-- The name of a back end. -/
def name : Backend → String
  | .mock => "mock"
  | .vivado => "vivado"

/-- The back end of a name, in any case. -/
def read (s : String) : Except UnknownBackend Backend :=
  let low := Text.lowercase s
  match named? all name low with
  | some b => .ok b
  | none => .error ⟨low⟩

/-- The record of a back end. -/
def toJson (b : Backend) : Json := .string b.name

/-- Reads the record of a back end. -/
def ofJson? : Json → Option Backend := Json.choice? (named? all name)

end Backend

end CoreTrial
