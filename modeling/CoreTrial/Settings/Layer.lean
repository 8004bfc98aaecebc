import CoreTrial.Json.Reader
import CoreTrial.Number.Binary64.Printer
import CoreTrial.Settings.Bench
import CoreTrial.Text.Lowercase

/-!
# Layers of settings

Settings come in layers: what is built in, a file, and the environment. A later layer replaces
single values of an earlier one. As a file or the environment may write a number as a text, or a
text as a number, a value is taken for what the settings want in its place.
-/

set_option autoImplicit false

namespace CoreTrial

/-- What the settings want in some place. -/
inductive Shape where
  | text
  | truth
  /-- A whole number of some bits. -/
  | word (bits : Nat)
  /-- One of some names, in any case. -/
  | choice (names : List String)
  /-- Something or null. -/
  | maybe (shape : Shape)
  | list (shape : Shape)
  | record (fields : List (String × Shape))

namespace Layer

/-- A value as a text. -/
def asText : Json → Option Json
  | .string s => some (.string s)
  | .bool b => some (.string (if b then "true" else "false"))
  | .int n => some (.string (toString n))
  | .float x => some (.string x.toText)
  | _ => none

/-- A value as a truth value. -/
def asTruth : Json → Option Json
  | .bool b => some (.bool b)
  | .int n => some (.bool (n != 0))
  | .float x => some (.bool !x.isZero)
  | .string s =>
    match Text.lowercase s with
    | "1" | "true" | "on" | "yes" => some (.bool true)
    | "0" | "false" | "off" | "no" => some (.bool false)
    | _ => none
  | _ => none

/-- A text as a whole number of 64 bits. -/
def wordOfText (s : String) : Option Nat :=
  match Text.lowercase s with
  | "true" | "on" | "yes" => some 1
  | "false" | "off" | "no" => some 0
  | _ =>
    let digits := match s.toList with
      | '+' :: rest => rest
      | chars => chars
    (Number.readNat? digits).filter (decide <| · < UInt64.size)

/-- A value as a whole number, of which the lowest bits count. -/
def asWord (bits : Nat) (v : Json) : Option Json :=
  let n : Option Nat := match v with
    | .int n => if 0 ≤ n ∧ n < UInt64.size then some n.toNat else none
    | .bool b => some (if b then 1 else 0)
    | .float x => some (x.roundWithin (UInt64.size - 1))
    | .string s => wordOfText s
    | _ => none
  n.map fun n => .nat (n % Nat.pow 2 bits)

/-- A value as one of some names. -/
def asChoice (names : List String) (v : Json) : Option Json :=
  let given := match v with
    | .string s => some s
    | .object [(s, _)] => some s
    | _ => none
  given.bind fun s =>
    (names.find? fun name => Text.lowercase name == Text.lowercase s).map .string

mutual

/-- A value as what the settings want. -/
def conform : Shape → Json → Option Json
  | .text, v => asText v
  | .truth, v => asTruth v
  | .word bits, v => asWord bits v
  | .choice names, v => asChoice names v
  | .maybe shape, v =>
    match v with
    | .null => some .null
    | v => conform shape v
  | .list shape, v =>
    match v with
    | .array items => (items.mapM (conform shape)).map .array
    | _ => none
  | .record fields, v =>
    match v with
    | .object given => (conformFields fields given).map .object
    | .array items => (conformItems fields items).map .array
    | _ => none

/-- The fields that the settings want, as far as they are given. -/
def conformFields : List (String × Shape) → List (String × Json) → Option (List (String × Json))
  | [], _ => some []
  | (name, shape) :: rest, given => do
    let others ← conformFields rest given
    match given.find? fun f => f.1 == name with
    | some f => return (name, ← conform shape f.2) :: others
    | none => return others

/-- The items of an array in the places of fields. -/
def conformItems : List (String × Shape) → List Json → Option (List Json)
  | _, [] => some []
  | [], items => some items
  | (_, shape) :: rest, v :: items => do return (← conform shape v) :: (← conformItems rest items)

end

/-- What the settings of a run and of the toolchain want. -/
def benchShape : Shape := .record [
  ("hardware_dir", .text),
  ("patch", .record [
    ("file", .text), ("start_marker", .text), ("end_marker", .text),
    ("encoding", .record [
      ("format", .choice (EncodingFormat.all.map EncodingFormat.name)), ("annotate", .truth)])]),
  ("build", .record [
    ("command", .record [("program", .text), ("args", .list .text)]),
    ("timeout_secs", .word 64),
    ("on_failure", .choice (BuildFailurePolicy.all.map BuildFailurePolicy.name)),
    ("tail_lines", .word 64)]),
  ("synthesis", .record [
    ("hdl_files", .list .text), ("top_module", .text), ("part_number", .text),
    ("device_id", .maybe .text)]),
  ("toolchain", .record [
    ("backend", .choice (Backend.all.map Backend.name)), ("build_dir", .text),
    ("tool_timeout_secs", .word 64),
    ("mock", .record [("utilization_report", .text)]),
    ("vivado", .record [("executable", .text), ("hw_server_url", .text)])]),
  ("monitor", .record [
    ("sentinel", .word 8), ("timeout_ms", .word 64), ("poll_interval_ms", .word 64)]),
  ("completion", .record [
    ("device", .maybe .text),
    ("serial", .record [("baud_rate", .word 32), ("read_timeout_ms", .word 64)]),
    ("mock_delay_ms", .word 64)]),
  ("scoring", .record [("resource_key", .text)]),
  ("run_timeout_secs", .word 64),
  ("logging", .record [("level", .text), ("json", .truth)])]

/-- Puts a value into the place of a name. -/
def place (name : String) (v : Json) : List (String × Json) → List (String × Json)
  | [] => [(name, v)]
  | f :: rest => if f.1 = name then (name, v) :: rest else f :: place name v rest

/-- The fields of a record; a value that is none has no fields. -/
def fieldsOf : Json → List (String × Json)
  | .object fields => fields
  | _ => []

mutual

/-- A value laid over another: records are merged, and all else is replaced. -/
def overlay (below : Json) : Json → Json
  | .object fields => .object (overlayFields (fieldsOf below) fields)
  | v => v

/-- Fields laid over others, in order. -/
def overlayFields (below : List (String × Json)) : List (String × Json) → List (String × Json)
  | [] => below
  | (name, v) :: rest =>
    let under := ((below.find? fun f => f.1 == name).map (·.2)).getD .null
    overlayFields (place name (overlay under v) below) rest

end

/-- A character of a name in a dotted path. -/
def isNameChar (c : Char) : Bool :=
  c.isAlphanum || c == '_' || c == '-'

/-- The names of a dotted path; what is no such path is one name. -/
def pathNames (s : String) : List String :=
  let parts := Text.splitOn '.' s.toList
  if parts.all fun p => !p.isEmpty && p.all isNameChar then parts.map String.ofList else [s]

/-- A value at the end of a path. -/
def atPath : List String → Json → Json
  | [], v => v
  | name :: rest, v => .object [(name, atPath rest v)]

/-- A layer whose names may be dotted paths, laid over another. -/
def overlayPaths (below : Json) (fields : List (String × Json)) : Json :=
  fields.foldl (fun below f => overlay below (atPath (pathNames f.1) f.2)) below

/-- What a variable of the environment says. -/
def variableValue (s : String) : Json :=
  match Text.lowercase s with
  | "true" => .bool true
  | "false" => .bool false
  | _ =>
    let (negative, digits) := match s.toList with
      | '-' :: rest => (true, rest)
      | '+' :: rest => (false, rest)
      | chars => (false, chars)
    match Number.readNat? digits with
    | some n =>
      let value : Int := if negative then -(n : Int) else n
      if -(Nat.pow 2 63 : Int) ≤ value ∧ value < Nat.pow 2 63 then .int value
      else .float (Number.Binary64.ofInt value)
    | none =>
      match Number.Binary64.read? s with
      | some x => .float x
      | none => .string s

/-- What stands before the names of variables that are settings. -/
def variableMark : String := "benchloop_"

mutual

/-- The names of the single values of a shape that has a name. -/
def leaves (name : String) : Shape → List String
  | .record fields => fieldLeaves (name ++ "__") fields
  | _ => [name]

/-- The names of the single values of fields. -/
def fieldLeaves (start : String) : List (String × Shape) → List String
  | [] => []
  | (name, shape) :: rest => leaves (start ++ name) shape ++ fieldLeaves start rest

end

/-- The variables that give single settings. -/
def variableNames : List String :=
  match benchShape with
  | .record fields =>
    (fieldLeaves variableMark fields).map fun s => String.ofList (s.toList.map Char.toUpper)
  | _ => []

/-- The dotted path of a setting that a variable gives. -/
def variablePath? (name : String) : Option String :=
  (Text.after? variableMark.toList (Text.lowercase name).toList).map fun rest =>
    String.ofList (dotted rest)
where
  dotted : List Char → List Char
    | '_' :: '_' :: rest => '.' :: dotted rest
    | c :: rest => c :: dotted rest
    | [] => []

/-- The layer of the environment. -/
def ofVariables (environment : List (String × String)) : List (String × Json) :=
  environment.filterMap fun (name, value) =>
    (variablePath? name).map fun path => (path, variableValue value)

/-- A number as a file of settings gives it: a whole one has 63 bits and a sign. -/
def ofFileNumber (n : Int) : Json :=
  if n < Nat.pow 2 63 then .int n else .float (Number.Binary64.ofInt n)

mutual

/-- A value as a file of settings gives it, unless a part of it is unreadable. -/
def ofFileValue? : Json → Option Json
  | .unreadable => none
  | .int n => some (ofFileNumber n)
  | .array items => (ofFileItems? items).map .array
  | .object fields => (ofFileFields? fields).map .object
  | v => some v

/-- Items of a file. -/
def ofFileItems? : List Json → Option (List Json)
  | [] => some []
  | v :: rest => do return (← ofFileValue? v) :: (← ofFileItems? rest)

/-- Fields of a file. -/
def ofFileFields? : List (String × Json) → Option (List (String × Json))
  | [] => some []
  | (name, v) :: rest => do return (name, ← ofFileValue? v) :: (← ofFileFields? rest)

end

/-- The layer of a file in JSON. -/
def ofFile? (text : String) : Option (List (String × Json)) :=
  match (Json.read? text).bind ofFileValue? with
  | some (.object fields) => some fields
  | _ => none

/-- The endings that a file of settings may have; without its ending it is looked for with each. -/
def endings : List String := ["json"]

/-- The file of settings that a name stands for. -/
def file? (fs : FileSystem) (name : String) : Option Path :=
  let isFile (p : Path) : Bool := match fs.node? p with
    | .ok (_, .file _ _ _) => true
    | _ => false
  if isFile ⟨name⟩ then
    if (Path.extension? ⟨name⟩).any endings.contains then some ⟨name⟩ else none
  else (endings.map fun e => (⟨name ++ "." ++ e⟩ : Path)).find? isFile

/-- The layer of the file of settings that a name stands for. -/
def ofNamedFile? (fs : FileSystem) (name : String) : Option (List (String × Json)) := do
  let path ← file? fs name
  let text ← (fs.readText path).toOption
  ofFile? text

/-- All layers as one value. -/
def merged? (fs : FileSystem) (file : Option String) (environment : List (String × String)) :
    Option Json := do
  let fileFields ← match file with
    | none => some []
    | some name => ofNamedFile? fs name
  let below := overlayPaths (BenchSettings.toJson {}) fileFields
  return overlayPaths below (ofVariables environment)

end Layer

/-- The settings of the built-in values, of a file, and of the environment. -/
def BenchSettings.load? (fs : FileSystem) (file : Option String)
    (environment : List (String × String)) : Option BenchSettings := do
  let merged ← Layer.merged? fs file environment
  BenchSettings.ofJson? (← Layer.conform Layer.benchShape merged)

end CoreTrial
