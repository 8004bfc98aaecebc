import CoreTrial.Json.Record
import CoreTrial.Naming
import CoreTrial.Path
import CoreTrial.Time.Timestamp

/-!
# What a toolchain produces

Bitstreams, confirmations that a device was programmed, and the reports a toolchain gives about
a design, with their records.
-/

set_option autoImplicit false

namespace CoreTrial

namespace Path

/-- The record of a path, which is text. -/
def toJson (p : Path) : Json := .string p.text

/-- Reads the record of a path. -/
def ofJson? (j : Json) : Option Path := (Json.string? j).map Path.mk

end Path

namespace Timestamp

/-- The record of an instant. -/
def toJson (t : Timestamp) : Json := .string t.toText

/-- Reads the record of an instant. -/
def ofJson? (j : Json) : Option Timestamp := (Json.string? j).bind Timestamp.read?

end Timestamp

/-- A bitstream that was synthesized. The paths of a record are of the type `π`. -/
structure SynthesisArtifact (π : Type := Path) where
  bitstream : π
  log : π
  topModule : String
  partNumber : String
  summary : String
  createdAt : Timestamp
  deriving DecidableEq, Repr

namespace SynthesisArtifact

/-- The bitstream and what it was made of. -/
def describe (a : SynthesisArtifact) : String :=
  "Bitstream(" ++ a.bitstream.text ++ ", top=" ++ a.topModule ++ ", part=" ++ a.partNumber ++ ")"

/-- The record of a bitstream. -/
def toJson (a : SynthesisArtifact) : Json :=
  .object [
    ("bitstream", a.bitstream.toJson),
    ("log", a.log.toJson),
    ("top_module", .string a.topModule),
    ("part_number", .string a.partNumber),
    ("summary", .string a.summary),
    ("created_at", a.createdAt.toJson)]

/-- Reads the record of a bitstream. -/
def ofJson? (j : Json) : Option SynthesisArtifact :=
  match Json.slots? ["bitstream", "log", "top_module", "part_number", "summary",
      "created_at"] j with
  | some [bitstream, log, topModule, partNumber, summary, createdAt] => do
    return {
      bitstream := ← bitstream.required Path.ofJson?
      log := ← log.required Path.ofJson?
      topModule := ← topModule.required Json.string?
      partNumber := ← partNumber.required Json.string?
      summary := ← summary.required Json.string?
      createdAt := ← createdAt.required Timestamp.ofJson? }
  | _ => none

end SynthesisArtifact

/-- A device was programmed. -/
structure FlashConfirmation (π : Type := Path) where
  bitstream : π
  deviceId : String
  message : String
  deriving DecidableEq, Repr

namespace FlashConfirmation

/-- The device of a request that names none. -/
def defaultDevice : String := "default"

/-- The record of a confirmation. -/
def toJson (c : FlashConfirmation) : Json :=
  .object [
    ("bitstream", c.bitstream.toJson),
    ("device_id", .string c.deviceId),
    ("message", .string c.message)]

/-- Reads the record of a confirmation. -/
def ofJson? (j : Json) : Option FlashConfirmation :=
  match Json.slots? ["bitstream", "device_id", "message"] j with
  | some [bitstream, deviceId, message] => do
    return ⟨← bitstream.required Path.ofJson?, ← deviceId.required Json.string?,
      ← message.required Json.string?⟩
  | _ => none

end FlashConfirmation

/-- What can be asked about a design. -/
inductive Metric where
  | timing
  | power
  | utilization
  deriving DecidableEq, Repr

namespace Metric

/-- All metrics. -/
def all : List Metric := [.timing, .power, .utilization]

/-- The name of a metric. -/
def name : Metric → String
  | .timing => "timing"
  | .power => "power"
  | .utilization => "utilization"

/-- The metric of a name. -/
def read (s : String) : Except UnknownName Metric :=
  match named? all name s with
  | some m => .ok m
  | none => .error ⟨"metric", s⟩

/-- The file of a build folder that reports on a metric. -/
def reportFile : Metric → String
  | .timing => "post_route_timing.rpt"
  | .power => "post_route_power.rpt"
  | .utilization => "post_route_util.rpt"

/-- The record of a metric. -/
def toJson (m : Metric) : Json := .string m.name

/-- Reads the record of a metric. -/
def ofJson? : Json → Option Metric := Json.choice? (named? all name)

end Metric

/-- The design that a testbench is run on. -/
inductive SimulationKind where
  | behavioral
  | postSynthesis
  | postImplementation
  deriving DecidableEq, Repr

namespace SimulationKind

/-- All kinds. -/
def all : List SimulationKind := [.behavioral, .postSynthesis, .postImplementation]

/-- The name of a kind. -/
def name : SimulationKind → String
  | .behavioral => "behavioral"
  | .postSynthesis => "post-synthesis"
  | .postImplementation => "post-implementation"

/-- The kind of a name. -/
def read (s : String) : Except UnknownName SimulationKind :=
  match named? all name s with
  | some k => .ok k
  | none => .error ⟨"simulation type", s⟩

/-- The record of a kind. -/
def toJson (k : SimulationKind) : Json := .string k.name

/-- Reads the record of a kind. -/
def ofJson? : Json → Option SimulationKind := Json.choice? (named? all name)

end SimulationKind

/-- The answer to a question about a design. A metric that nobody knows is no error. -/
inductive AnalysisReport where
  | report (metric : Metric) (text : String)
  | unknownMetric (name : String)
  deriving DecidableEq, Repr

namespace AnalysisReport

/-- The text of the answer. -/
def text : AnalysisReport → String
  | .report _ text => text
  | .unknownMetric name => "Unknown metric: " ++ name

/-- The metric is known. -/
def isKnown : AnalysisReport → Bool
  | .report _ _ => true
  | .unknownMetric _ => false

/-- The record of an answer: an object of one field, which names the case. -/
def toJson : AnalysisReport → Json
  | .report metric text =>
    .object [("Report", .object [("metric", metric.toJson), ("text", .string text)])]
  | .unknownMetric name => .object [("UnknownMetric", .string name)]

/-- Reads the record of an answer. -/
def ofJson? : Json → Option AnalysisReport
  | .object [("Report", j)] =>
    match Json.slots? ["metric", "text"] j with
    | some [metric, text] => do
      return .report (← metric.required Metric.ofJson?) (← text.required Json.string?)
    | _ => none
  | .object [("UnknownMetric", .string name)] => some (.unknownMetric name)
  | _ => none

end AnalysisReport

/-- The outcome of a testbench. -/
structure VerificationReport (π : Type := Path) where
  testbench : π
  kind : SimulationKind
  passed : Bool
  summary : String
  deriving DecidableEq, Repr

namespace VerificationReport

/-- The testbench and its outcome. -/
def describe (r : VerificationReport) : String :=
  r.testbench.text ++ " (" ++ r.kind.name ++ "): " ++ r.summary

/-- The record of an outcome. -/
def toJson (r : VerificationReport) : Json :=
  .object [
    ("testbench", r.testbench.toJson),
    ("kind", r.kind.toJson),
    ("passed", .bool r.passed),
    ("summary", .string r.summary)]

/-- Reads the record of an outcome. -/
def ofJson? (j : Json) : Option VerificationReport :=
  match Json.slots? ["testbench", "kind", "passed", "summary"] j with
  | some [testbench, kind, passed, summary] => do
    return ⟨← testbench.required Path.ofJson?, ← kind.required SimulationKind.ofJson?,
      ← passed.required Json.bool?, ← summary.required Json.string?⟩
  | _ => none

end VerificationReport

end CoreTrial
