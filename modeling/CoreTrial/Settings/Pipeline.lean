import CoreTrial.Build
import CoreTrial.Encoding
import CoreTrial.Patch

/-!
# Settings of a run

What a run patches, builds, synthesizes, waits for and scores. Every field has a default, so any
part of a record may be left out.
-/

set_option autoImplicit false

namespace CoreTrial

/-- Where and how a program is injected. -/
structure PatchSettings where
  file : Path := ⟨"src/main/scala/cpu/Memory.scala"⟩
  startMarker : String := "val program = VecInit(Seq("
  endMarker : String := "))"
  encoding : EncodeOptions := {}
  deriving DecidableEq, Repr

namespace PatchSettings

/-- The record of the settings. -/
def toJson (s : PatchSettings) : Json :=
  .object [
    ("file", s.file.toJson),
    ("start_marker", .string s.startMarker),
    ("end_marker", .string s.endMarker),
    ("encoding", s.encoding.toJson)]

/-- Reads the record of the settings. -/
def ofJson? (j : Json) : Option PatchSettings :=
  let d : PatchSettings := {}
  match Json.slots? ["file", "start_marker", "end_marker", "encoding"] j with
  | some [file, start, stop, encoding] => do
    return {
      file := ← file.orDefault d.file Path.ofJson?
      startMarker := ← start.orDefault d.startMarker Json.string?
      endMarker := ← stop.orDefault d.endMarker Json.string?
      encoding := ← encoding.orDefault d.encoding EncodeOptions.ofJson? }
  | _ => none

end PatchSettings

/-- Whether a run goes on after a build that did not succeed. -/
inductive BuildFailurePolicy where
  | abort
  | continue
  deriving DecidableEq, Repr

namespace BuildFailurePolicy

/-- All policies. -/
def all : List BuildFailurePolicy := [.abort, .continue]

/-- The name of a policy. -/
def name : BuildFailurePolicy → String
  | .abort => "abort"
  | .continue => "continue"

/-- The record of a policy. -/
def toJson (p : BuildFailurePolicy) : Json := .string p.name

/-- Reads the record of a policy. -/
def ofJson? : Json → Option BuildFailurePolicy := Json.choice? (named? all name)

end BuildFailurePolicy

/-- How the hardware description is generated. -/
structure BuildSettings where
  command : BuildCommand := BuildCommand.default
  timeoutSeconds : Nat := 600
  onFailure : BuildFailurePolicy := .abort
  tailLines : Nat := 20
  deriving DecidableEq, Repr

namespace BuildSettings

/-- How long a build may take. -/
def timeout (s : BuildSettings) : Duration := Duration.ofSeconds s.timeoutSeconds

/-- The record of the settings. -/
def toJson (s : BuildSettings) : Json :=
  .object [
    ("command", s.command.toJson),
    ("timeout_secs", .nat s.timeoutSeconds),
    ("on_failure", s.onFailure.toJson),
    ("tail_lines", .nat s.tailLines)]

/-- Reads the record of the settings. -/
def ofJson? (j : Json) : Option BuildSettings :=
  let d : BuildSettings := {}
  match Json.slots? ["command", "timeout_secs", "on_failure", "tail_lines"] j with
  | some [command, timeout, onFailure, tailLines] => do
    return {
      command := ← command.orDefault d.command BuildCommand.ofJson?
      timeoutSeconds := ← timeout.orDefault d.timeoutSeconds Json.word64?
      onFailure := ← onFailure.orDefault d.onFailure BuildFailurePolicy.ofJson?
      tailLines := ← tailLines.orDefault d.tailLines Json.word64? }
  | _ => none

end BuildSettings

/-- What is synthesized, and for which device. -/
structure SynthesisSettings where
  hdlFiles : List Path := [⟨"generated/Top.v"⟩]
  topModule : String := "Top"
  partNumber : String := "xc7a100tcsg324-1"
  deviceId : Option String := none
  deriving DecidableEq, Repr

namespace SynthesisSettings

/-- The record of the settings. -/
def toJson (s : SynthesisSettings) : Json :=
  .object [
    ("hdl_files", .array (s.hdlFiles.map Path.toJson)),
    ("top_module", .string s.topModule),
    ("part_number", .string s.partNumber),
    ("device_id", Json.ofOption .string s.deviceId)]

/-- Reads the record of the settings. -/
def ofJson? (j : Json) : Option SynthesisSettings :=
  let d : SynthesisSettings := {}
  match Json.slots? ["hdl_files", "top_module", "part_number", "device_id"] j with
  | some [hdlFiles, topModule, partNumber, deviceId] => do
    return {
      hdlFiles := ← hdlFiles.orDefault d.hdlFiles (Json.list? Path.ofJson?)
      topModule := ← topModule.orDefault d.topModule Json.string?
      partNumber := ← partNumber.orDefault d.partNumber Json.string?
      deviceId := ← deviceId.optionalOrNone Json.string? }
  | _ => none

end SynthesisSettings

/-- What the end of a program looks like, and how it is waited for. -/
structure MonitorSettings where
  /-- The byte that a program sends when it is done: the letter D. -/
  sentinel : UInt8 := 68
  timeoutMillis : Nat := 30000
  pollMillis : Nat := 10
  deriving DecidableEq, Repr

namespace MonitorSettings

/-- How long the end is waited for. -/
def timeout (s : MonitorSettings) : Duration := Duration.ofMillis s.timeoutMillis

/-- The pause between two looks. -/
def pollInterval (s : MonitorSettings) : Duration := Duration.ofMillis s.pollMillis

/-- The record of the settings. -/
def toJson (s : MonitorSettings) : Json :=
  .object [
    ("sentinel", .nat s.sentinel.toNat),
    ("timeout_ms", .nat s.timeoutMillis),
    ("poll_interval_ms", .nat s.pollMillis)]

/-- Reads the record of the settings. -/
def ofJson? (j : Json) : Option MonitorSettings :=
  let d : MonitorSettings := {}
  match Json.slots? ["sentinel", "timeout_ms", "poll_interval_ms"] j with
  | some [sentinel, timeout, poll] => do
    return {
      sentinel := ← sentinel.orDefault d.sentinel Json.byte?
      timeoutMillis := ← timeout.orDefault d.timeoutMillis Json.word64?
      pollMillis := ← poll.orDefault d.pollMillis Json.word64? }
  | _ => none

end MonitorSettings

/-- The resource that a design is scored by. -/
structure ScoringSettings where
  resourceKey : String := "LUT"
  deriving DecidableEq, Repr

namespace ScoringSettings

/-- The record of the settings. -/
def toJson (s : ScoringSettings) : Json :=
  .object [("resource_key", .string s.resourceKey)]

/-- Reads the record of the settings. -/
def ofJson? (j : Json) : Option ScoringSettings :=
  let d : ScoringSettings := {}
  match Json.slots? ["resource_key"] j with
  | some [key] => do return ⟨← key.orDefault d.resourceKey Json.string?⟩
  | _ => none

end ScoringSettings

/-- The settings of a run. -/
structure PipelineSettings where
  hardwareDir : Path := ⟨"hardware"⟩
  patch : PatchSettings := {}
  build : BuildSettings := {}
  synthesis : SynthesisSettings := {}
  monitor : MonitorSettings := {}
  scoring : ScoringSettings := {}
  runTimeoutSeconds : Nat := 3600
  deriving DecidableEq, Repr

namespace PipelineSettings

/-- A path as seen from the hardware folder. -/
def resolve (s : PipelineSettings) (p : Path) : Path :=
  if p.isAbsolute then p else s.hardwareDir.join p

/-- The file that a program is injected into. -/
def patchTarget (s : PipelineSettings) : PatchTarget where
  path := s.resolve s.patch.file
  startMarker := s.patch.startMarker
  endMarker := s.patch.endMarker

/-- The sources that are synthesized. -/
def hdlPaths (s : PipelineSettings) : List Path :=
  s.synthesis.hdlFiles.map s.resolve

/-- How long a run may take. -/
def runTimeout (s : PipelineSettings) : Duration :=
  Duration.ofSeconds s.runTimeoutSeconds

/-- When the timer of a run strikes. -/
def runLimit (s : PipelineSettings) : Duration :=
  s.runTimeout.onTimer

/-- The record of the settings. -/
def toJson (s : PipelineSettings) : Json :=
  .object [
    ("hardware_dir", s.hardwareDir.toJson),
    ("patch", s.patch.toJson),
    ("build", s.build.toJson),
    ("synthesis", s.synthesis.toJson),
    ("monitor", s.monitor.toJson),
    ("scoring", s.scoring.toJson),
    ("run_timeout_secs", .nat s.runTimeoutSeconds)]

/-- Reads the record of the settings. -/
def ofJson? (j : Json) : Option PipelineSettings :=
  let d : PipelineSettings := {}
  match Json.slots? ["hardware_dir", "patch", "build", "synthesis", "monitor", "scoring",
      "run_timeout_secs"] j with
  | some [hardwareDir, patch, build, synthesis, monitor, scoring, runTimeout] => do
    return {
      hardwareDir := ← hardwareDir.orDefault d.hardwareDir Path.ofJson?
      patch := ← patch.orDefault d.patch PatchSettings.ofJson?
      build := ← build.orDefault d.build BuildSettings.ofJson?
      synthesis := ← synthesis.orDefault d.synthesis SynthesisSettings.ofJson?
      monitor := ← monitor.orDefault d.monitor MonitorSettings.ofJson?
      scoring := ← scoring.orDefault d.scoring ScoringSettings.ofJson?
      runTimeoutSeconds := ← runTimeout.orDefault d.runTimeoutSeconds Json.word64? }
  | _ => none

end PipelineSettings

end CoreTrial
