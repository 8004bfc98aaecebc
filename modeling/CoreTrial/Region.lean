import CoreTrial.Text.Search
import CoreTrial.Text.Quoted

/-!
# The marked region of a text

A text with a start marker and, after it, an end marker has a region between the two. Entries are
written into it one a line. Entries are fit for the region when the end marker, searched from
the region's start, is found at the region's end and not before.
-/

set_option autoImplicit false

namespace CoreTrial

/-- One of the two markers. -/
inductive Marker where
  | start
  | stop
  deriving DecidableEq, Repr

/-- The name of a marker. -/
def Marker.name : Marker → String
  | .start => "start"
  | .stop => "end"

/-- Offsets into a text, in bytes: the first of a span and the first past it. -/
structure Span where
  first : Nat
  past : Nat
  deriving DecidableEq, Repr

/-- A text cut at its first start marker and the first end marker after that. -/
structure MarkedText where
  before : List Char
  start : List Char
  body : List Char
  stop : List Char
  after : List Char
  deriving DecidableEq, Repr

namespace MarkedText

/-- Cuts a text at its markers, or says which one it lacks. -/
def parse (start stop content : String) : Except Marker MarkedText :=
  match Text.cut? start.toList content.toList with
  | none => .error .start
  | some (before, rest) =>
    match Text.cut? stop.toList rest with
    | none => .error .stop
    | some (body, after) => .ok ⟨before, start.toList, body, stop.toList, after⟩

/-- The text up to the region; it includes the start marker. -/
def lead (m : MarkedText) : List Char :=
  m.before ++ m.start

/-- The text from the region on; it starts with the end marker. -/
def tail (m : MarkedText) : List Char :=
  m.stop ++ m.after

/-- The whole text. -/
def content (m : MarkedText) : List Char :=
  m.lead ++ m.body ++ m.tail

/-- Where the start marker stands. -/
def startSpan (m : MarkedText) : Span :=
  ⟨Text.byteLength m.before, Text.byteLength m.lead⟩

/-- Where the region stands. -/
def bodySpan (m : MarkedText) : Span :=
  ⟨Text.byteLength m.lead, Text.byteLength (m.lead ++ m.body)⟩

/-- Where the end marker stands. -/
def stopSpan (m : MarkedText) : Span :=
  ⟨Text.byteLength (m.lead ++ m.body), Text.byteLength (m.lead ++ m.body ++ m.stop)⟩

end MarkedText

namespace Region

/-- What stands before the first entry. -/
def opening : List Char := "\n    ".toList

/-- What stands between two entries. -/
def separator : List Char := ",\n    ".toList

/-- What stands after the last entry. -/
def closing : List Char := "\n  ".toList

/-- A region with these entries. -/
def render (entries : List String) : List Char :=
  opening ++ Text.join separator (entries.map String.toList) ++ closing

/-- The text with these entries in its region. -/
def splice (m : MarkedText) (entries : List String) : String :=
  String.ofList (m.lead ++ render entries ++ m.tail)

/-- The first entry that holds a marker. -/
def firstHolding (marker : String) (entries : List String) : Option Nat :=
  entries.findIdx? fun e => Text.contains e marker

/-- Whether the end marker, put after the region of these entries, is found there first. -/
def accepts (stop : String) (entries : List String) : Bool :=
  (Text.cut? stop.toList (render entries ++ stop.toList)).any fun p =>
    p.1.length == (render entries).length

end Region

end CoreTrial
