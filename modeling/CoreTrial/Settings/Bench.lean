import CoreTrial.Settings.Pipeline
import CoreTrial.Settings.Toolchain

/-!
# Settings of the program

All settings that the command line works with: those of a run, those of the toolchain, where the
end of a program is told, and what is logged.
-/

set_option autoImplicit false

namespace CoreTrial

/-- Where the end of a program is told. -/
structure CompletionSettings where
  /-- A device or a file. -/
  device : Option Path := none
  serial : SerialSettings := {}
  /-- The time of a program on no device. -/
  mockDelayMillis : Nat := 1234
  deriving DecidableEq, Repr

namespace CompletionSettings

/-- The record of the settings. -/
def toJson (s : CompletionSettings) : Json :=
  .object [
    ("device", Json.ofOption Path.toJson s.device),
    ("serial", s.serial.toJson),
    ("mock_delay_ms", .nat s.mockDelayMillis)]

/-- Reads the record of the settings. -/
def ofJson? (j : Json) : Option CompletionSettings :=
  let d : CompletionSettings := {}
  match Json.slots? ["device", "serial", "mock_delay_ms"] j with
  | some [device, serial, mockDelay] => do
    return {
      device := ← device.optionalOrNone Path.ofJson?
      serial := ← serial.orDefault d.serial SerialSettings.ofJson?
      mockDelayMillis := ← mockDelay.orDefault d.mockDelayMillis Json.word64? }
  | _ => none

end CompletionSettings

/-- What is logged. -/
structure LoggingSettings where
  level : String := "warn"
  json : Bool := false
  deriving DecidableEq, Repr

namespace LoggingSettings

/-- The record of the settings. -/
def toJson (s : LoggingSettings) : Json :=
  .object [("level", .string s.level), ("json", .bool s.json)]

/-- Reads the record of the settings. -/
def ofJson? (j : Json) : Option LoggingSettings :=
  let d : LoggingSettings := {}
  match Json.slots? ["level", "json"] j with
  | some [level, json] => do
    return ⟨← level.orDefault d.level Json.string?, ← json.orDefault d.json Json.bool?⟩
  | _ => none

end LoggingSettings

/-- All settings. -/
structure BenchSettings where
  run : PipelineSettings := {}
  toolchain : ToolchainSettings := {}
  completion : CompletionSettings := {}
  logging : LoggingSettings := {}
  deriving DecidableEq, Repr

namespace BenchSettings

/-- The file that is locked during a run. -/
def lockPath (s : BenchSettings) : Path :=
  s.run.hardwareDir.child ".benchloop.lock"

/-- The record of the settings. -/
def toJson (s : BenchSettings) : Json :=
  .object [
    ("hardware_dir", s.run.hardwareDir.toJson),
    ("patch", s.run.patch.toJson),
    ("build", s.run.build.toJson),
    ("synthesis", s.run.synthesis.toJson),
    ("toolchain", s.toolchain.toJson),
    ("monitor", s.run.monitor.toJson),
    ("completion", s.completion.toJson),
    ("scoring", s.run.scoring.toJson),
    ("run_timeout_secs", .nat s.run.runTimeoutSeconds),
    ("logging", s.logging.toJson)]

/-- Reads the record of the settings. -/
def ofJson? (j : Json) : Option BenchSettings :=
  let d : BenchSettings := {}
  match Json.slots? ["hardware_dir", "patch", "build", "synthesis", "toolchain", "monitor",
      "completion", "scoring", "run_timeout_secs", "logging"] j with
  | some [hardwareDir, patch, build, synthesis, toolchain, monitor, completion, scoring, runTimeout,
      logging] => do
    return {
      run := {
        hardwareDir := ← hardwareDir.orDefault d.run.hardwareDir Path.ofJson?
        patch := ← patch.orDefault d.run.patch PatchSettings.ofJson?
        build := ← build.orDefault d.run.build BuildSettings.ofJson?
        synthesis := ← synthesis.orDefault d.run.synthesis SynthesisSettings.ofJson?
        monitor := ← monitor.orDefault d.run.monitor MonitorSettings.ofJson?
        scoring := ← scoring.orDefault d.run.scoring ScoringSettings.ofJson?
        runTimeoutSeconds := ← runTimeout.orDefault d.run.runTimeoutSeconds Json.word64? }
      toolchain := ← toolchain.orDefault d.toolchain ToolchainSettings.ofJson?
      completion := ← completion.orDefault d.completion CompletionSettings.ofJson?
      logging := ← logging.orDefault d.logging LoggingSettings.ofJson? }
  | _ => none

end BenchSettings

end CoreTrial
