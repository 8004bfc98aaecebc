import CoreTrial.Number.Binary64.Basic

/-!
# JSON values

The values that records are written as. Fields keep their order, and a field may occur twice in
a value that was read.
-/

set_option autoImplicit false

namespace CoreTrial

/-- A JSON value. -/
inductive Json where
  | null
  | bool (b : Bool)
  | int (n : Int)
  | float (x : Number.Binary64)
  | string (s : String)
  | array (items : List Json)
  | object (fields : List (String × Json))
  /-- Well-formed text without a value: a number too large to hold, or half of a surrogate pair.
  It may stand where nobody looks. -/
  | unreadable

namespace Json

/-- A natural number. -/
def nat (n : Nat) : Json := .int n

/-- A value or null. -/
def ofOption {α : Type} (write : α → Json) : Option α → Json
  | none => .null
  | some a => write a

/-- The field `name` of an object. -/
def field? (name : String) : Json → Option Json
  | .object fields => (fields.find? fun f => f.1 == name).map (·.2)
  | _ => none

end Json

end CoreTrial
