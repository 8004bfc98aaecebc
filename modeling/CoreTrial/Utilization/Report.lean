import CoreTrial.Utilization.Lookup
import CoreTrial.Json.Record

/-!
# Utilization reports

The percentages of all resources that a report names by an identifier. Entries are found from
the start of the text on, and none begins inside another.
-/

set_option autoImplicit false

namespace CoreTrial.Utilization

/-- A character that an identifier may start with. -/
def isKeyStart (c : Char) : Bool := c.isAlpha

/-- A character that an identifier may go on with. -/
def isKeyChar (c : Char) : Bool := c.isAlphanum || c == '_'

/-- An entry that was found: its key, its digits, and the characters it takes. -/
structure Entry where
  key : List Char
  digits : List Char
  length : Nat
  deriving DecidableEq, Repr

/-- The entry at the start of `s`, which follows the character `before`. -/
def entryAt? (before : Option Char) (s : List Char) : Option Entry :=
  let key := s.takeWhile isKeyChar
  if Text.isWordBoundary before s.head? && s.head?.any isKeyStart then
    let rest := s.drop key.length
    (digitsAfterKey? rest).map fun digits =>
      let spaces := rest.length - 1 - (skipSpace (rest.drop 1)).length
      ⟨key, digits, key.length + 1 + spaces + digits.length + 1⟩
  else none

/-- The entries of a text that follows the character `before`; the first `skip` characters
belong to an entry already found. -/
def entriesFrom : Nat → Option Char → List Char → List Entry
  | _, _, [] => []
  | skip + 1, _, c :: rest => entriesFrom skip (some c) rest
  | 0, before, c :: rest =>
    match entryAt? before (c :: rest) with
    | some e => e :: entriesFrom (e.length - 1) (some c) rest
    | none => entriesFrom 0 (some c) rest

/-- The entries of a text. -/
def entries (text : String) : List Entry :=
  entriesFrom 0 none text.toList

/-- A report: its text, and the percentages read from it. -/
structure Report where
  raw : String
  resources : SortedMap UInt32

namespace Report

/-- Reads the percentages of a text. The first entry of a key counts; a key whose first entry
is unreadable has no percentage. -/
def parse (text : String) : Report where
  raw := text
  resources :=
    let first := (entries text).foldl
      (fun m e => m.insertNew (String.ofList e.key) (readPercent e.digits)) SortedMap.empty
    first.filterMap Lookup.percent?

/-- The percentage of a resource. -/
def percentage? (r : Report) (resource : String) : Option UInt32 :=
  r.resources.find? resource

/-- No resource has a percentage. -/
def isEmpty (r : Report) : Bool :=
  r.resources.entries.isEmpty

/-- The percentages in the order of the keys. -/
def describe (r : Report) : String :=
  let shares := r.resources.entries.map fun e => e.1 ++ "=" ++ toString e.2.toNat ++ "%"
  "Utilization(" ++ String.intercalate ", " shares ++ ")"

/-- The record of a report. -/
def toJson (r : Report) : Json :=
  .object [("raw", .string r.raw), ("resources", Json.ofMap (fun n => .nat n.toNat) r.resources)]

/-- Reads the record of a report. -/
def ofJson? (j : Json) : Option Report :=
  match Json.slots? ["raw", "resources"] j with
  | some [raw, resources] => do
    return ⟨← raw.required Json.string?,
      ← resources.required (Json.map? Json.word32?)⟩
  | _ => none

end Report

end CoreTrial.Utilization
