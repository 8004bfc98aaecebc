import CoreTrial.FileSystem.Basic
import CoreTrial.Json.Record
import CoreTrial.Artifact
import CoreTrial.Region

/-!
# Patching a source file

Writes entries into the marked region of a file. Entries that hold the end marker are refused
before the file is looked at. The file is replaced in one step, and only if its text changes, so
a patch that fails leaves the file as it was.
-/

set_option autoImplicit false

namespace CoreTrial

/-- A file and the markers of its region. -/
structure PatchTarget where
  path : Path
  startMarker : String
  endMarker : String
  deriving DecidableEq, Repr

namespace PatchTarget

/-- The file and its markers. -/
def describe (t : PatchTarget) : String :=
  t.path.text ++ " [" ++ t.startMarker ++ " .. " ++ t.endMarker ++ "]"

/-- The record of a target. -/
def toJson (t : PatchTarget) : Json :=
  .object [
    ("path", t.path.toJson),
    ("start_marker", .string t.startMarker),
    ("end_marker", .string t.endMarker)]

/-- Reads the record of a target. -/
def ofJson? (j : Json) : Option PatchTarget :=
  match Json.slots? ["path", "start_marker", "end_marker"] j with
  | some [path, start, stop] => do
    return ⟨← path.required Path.ofJson?, ← start.required Json.string?,
      ← stop.required Json.string?⟩
  | _ => none

end PatchTarget

/-- Why a file is not patched. -/
inductive PatchError where
  | markerNotFound (marker : Marker) (text : String) (path : Path)
  /-- The end marker stands in the entry of this index, or in none of them alone. -/
  | endMarkerInEntries (marker : String) (entry : Option Nat)
  | read (path : Path) (cause : IoError)
  | write (path : Path) (cause : IoError)
  deriving DecidableEq, Repr

/-- The text of the error. -/
def PatchError.message : PatchError → String
  | .markerNotFound marker text path =>
    marker.name ++ " marker " ++ Text.quoted text ++ " not found in " ++ path.text
  | .endMarkerInEntries marker entry =>
    let place := match entry with
      | some i => toString i
      | none => "across entries"
    "Program entries contain the end marker " ++ Text.quoted marker ++ " (entry " ++ place ++ ")"
  | .read path cause => "Failed to read " ++ path.text ++ ": " ++ cause.message
  | .write path cause => "Failed to write " ++ path.text ++ ": " ++ cause.message

/-- What a patch did. -/
structure PatchOutcome where
  changed : Bool
  entries : Nat
  bytesWritten : Nat
  deriving DecidableEq, Repr

namespace Patch

/-- Cuts a text at the markers; the path is for the error. -/
def parseRegion (content start stop : String) (path : Path) : Except PatchError MarkedText :=
  match MarkedText.parse start stop content with
  | .ok m => .ok m
  | .error .start => .error (.markerNotFound .start start path)
  | .error .stop => .error (.markerNotFound .stop stop path)

/-- Refuses entries in whose region the end marker would be found too early. -/
def validate (entries : List String) (stop : String) : Except PatchError Unit :=
  if Region.accepts stop entries then .ok ()
  else .error (.endMarkerInEntries stop (Region.firstHolding stop entries))

/-- Finds the region of a file. -/
def check (fs : FileSystem) (t : PatchTarget) : Except PatchError MarkedText :=
  match fs.readText t.path with
  | .error e => .error (.read t.path e)
  | .ok content => parseRegion content t.startMarker t.endMarker t.path

/-- Writes entries into the region of a file. -/
def apply (fs : FileSystem) (t : PatchTarget) (entries : List String) :
    Except PatchError (FileSystem × PatchOutcome) :=
  match validate entries t.endMarker with
  | .error e => .error e
  | .ok () =>
    match fs.readText t.path with
    | .error e => .error (.read t.path e)
    | .ok content =>
      match parseRegion content t.startMarker t.endMarker t.path with
      | .error e => .error e
      | .ok m =>
        let updated := Region.splice m entries
        if updated = content then .ok (fs, ⟨false, entries.length, 0⟩)
        else match fs.replace t.path updated.toUTF8 with
          | .error e => .error (.write t.path e)
          | .ok fs => .ok (fs, ⟨true, entries.length, updated.utf8ByteSize⟩)

end Patch

end CoreTrial
