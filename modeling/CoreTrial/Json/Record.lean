import CoreTrial.Json.Basic
import CoreTrial.SortedMap

/-!
# Records as JSON

The rules by which a record is read from a value. A record is an object of its fields, in any
order and with any others beside them, or an array of its fields in their order. A field that
may be absent is null, or is not there; one with a default may also be missing at the end of the
array. A choice among names is a name, or an object that takes the name to null.
-/

set_option autoImplicit false

namespace CoreTrial.Json

/-- What a value holds at the place of a field. -/
inductive Slot where
  | given (value : Json)
  /-- The object has no such field. -/
  | absent
  /-- The array ends before the field. -/
  | beyond

/-- Nothing, where an object has two fields of one name. -/
def slotOf (fields : List (String × Json)) (name : String) : Option Slot :=
  match fields.filter fun f => f.1 == name with
  | [] => some .absent
  | [f] => some (.given f.2)
  | _ => none

/-- The slots of a record with these fields. -/
def slots? (names : List String) : Json → Option (List Slot)
  | .object fields => names.mapM (slotOf fields)
  | .array items =>
    if items.length ≤ names.length then
      some (items.map .given ++ List.replicate (names.length - items.length) .beyond)
    else none
  | _ => none

namespace Slot

variable {α : Type}

/-- A field that must be there. -/
def required (read : Json → Option α) : Slot → Option α
  | .given v => read v
  | _ => none

/-- A field that may be absent. -/
def optional (read : Json → Option α) : Slot → Option (Option α)
  | .given .null => some none
  | .given v => (read v).map some
  | .absent => some none
  | .beyond => none

/-- A field with a default. -/
def orDefault (default : α) (read : Json → Option α) : Slot → Option α
  | .given v => read v
  | _ => some default

/-- A field that may be absent, and may be missing at the end. -/
def optionalOrNone (read : Json → Option α) : Slot → Option (Option α)
  | .given .null => some none
  | .given v => (read v).map some
  | _ => some none

end Slot

/-- A string. -/
def string? : Json → Option String
  | .string s => some s
  | _ => none

/-- A truth value. -/
def bool? : Json → Option Bool
  | .bool b => some b
  | _ => none

/-- A whole number from 0 to `greatest`. -/
def natUpTo? (greatest : Nat) : Json → Option Nat
  | .int n => if 0 ≤ n ∧ n ≤ greatest then some n.toNat else none
  | _ => none

/-- A whole number of 64 bits. -/
def word64? : Json → Option Nat := natUpTo? (UInt64.size - 1)

/-- A whole number of 32 bits. -/
def word32? : Json → Option UInt32 := fun v => (natUpTo? (UInt32.size - 1) v).map UInt32.ofNat

/-- A byte. -/
def byte? : Json → Option UInt8 := fun v => (natUpTo? 255 v).map UInt8.ofNat

/-- A whole number with a sign, of 32 bits. -/
def signed32? : Json → Option Int32
  | .int n => if -2147483648 ≤ n ∧ n ≤ 2147483647 then some (Int32.ofInt n) else none
  | _ => none

/-- A number; a whole one is rounded. -/
def float? : Json → Option Number.Binary64
  | .float x => some x
  | .int n => some (Number.Binary64.ofInt n)
  | _ => none

/-- A list. -/
def list? {α : Type} (read : Json → Option α) : Json → Option (List α)
  | .array items => items.mapM read
  | _ => none

/-- A map; of two fields of one name the last counts. -/
def map? {α : Type} (read : Json → Option α) : Json → Option (SortedMap α)
  | .object fields => do
    let entries ← fields.mapM fun f => (read f.2).map fun a => (f.1, a)
    return SortedMap.ofList entries
  | _ => none

/-- A choice among names. -/
def choice? {α : Type} (ofName : String → Option α) : Json → Option α
  | .string s => ofName s
  | .object [(s, .null)] => ofName s
  | _ => none

/-- A map as an object in the order of its keys. -/
def ofMap {α : Type} (write : α → Json) (m : SortedMap α) : Json :=
  .object (m.entries.map fun e => (e.1, write e.2))

end CoreTrial.Json
