import CoreTrial.Artifact
import CoreTrial.Backend
import CoreTrial.Time.Duration

/-!
# Settings of a toolchain

Which back end is used, where it writes, and how the line to the device is set.
-/

set_option autoImplicit false

namespace CoreTrial

/-- Settings of the back end that writes placeholders. -/
structure MockSettings where
  /-- What synthesis writes as its utilization report. -/
  utilizationReport : String := "Utilization Report\nLUT: 45%\nFF: 30%\nBRAM: 10%"
  deriving DecidableEq, Repr

namespace MockSettings

/-- The record of the settings. -/
def toJson (s : MockSettings) : Json :=
  .object [("utilization_report", .string s.utilizationReport)]

/-- Reads the record of the settings. -/
def ofJson? (j : Json) : Option MockSettings :=
  let d : MockSettings := {}
  match Json.slots? ["utilization_report"] j with
  | some [report] => do return ⟨← report.orDefault d.utilizationReport Json.string?⟩
  | _ => none

end MockSettings

/-- Settings of Vivado. -/
structure VivadoSettings where
  executable : String := "vivado"
  hwServerUrl : String := "localhost:3121"
  deriving DecidableEq, Repr

namespace VivadoSettings

/-- The record of the settings. -/
def toJson (s : VivadoSettings) : Json :=
  .object [("executable", .string s.executable), ("hw_server_url", .string s.hwServerUrl)]

/-- Reads the record of the settings. -/
def ofJson? (j : Json) : Option VivadoSettings :=
  let d : VivadoSettings := {}
  match Json.slots? ["executable", "hw_server_url"] j with
  | some [executable, server] => do
    return ⟨← executable.orDefault d.executable Json.string?,
      ← server.orDefault d.hwServerUrl Json.string?⟩
  | _ => none

end VivadoSettings

/-- Settings of a toolchain. -/
structure ToolchainSettings where
  backend : Backend := .mock
  buildDir : Path := ⟨"build"⟩
  toolTimeoutSeconds : Nat := 1800
  mock : MockSettings := {}
  vivado : VivadoSettings := {}
  deriving DecidableEq, Repr

namespace ToolchainSettings

/-- How long one call may take. -/
def toolTimeout (s : ToolchainSettings) : Duration := Duration.ofSeconds s.toolTimeoutSeconds

/-- The record of the settings. -/
def toJson (s : ToolchainSettings) : Json :=
  .object [
    ("backend", s.backend.toJson),
    ("build_dir", s.buildDir.toJson),
    ("tool_timeout_secs", .nat s.toolTimeoutSeconds),
    ("mock", s.mock.toJson),
    ("vivado", s.vivado.toJson)]

/-- Reads the record of the settings. -/
def ofJson? (j : Json) : Option ToolchainSettings :=
  let d : ToolchainSettings := {}
  match Json.slots? ["backend", "build_dir", "tool_timeout_secs", "mock", "vivado"] j with
  | some [backend, buildDir, timeout, mock, vivado] => do
    return {
      backend := ← backend.orDefault d.backend Backend.ofJson?
      buildDir := ← buildDir.orDefault d.buildDir Path.ofJson?
      toolTimeoutSeconds := ← timeout.orDefault d.toolTimeoutSeconds Json.word64?
      mock := ← mock.orDefault d.mock MockSettings.ofJson?
      vivado := ← vivado.orDefault d.vivado VivadoSettings.ofJson? }
  | _ => none

end ToolchainSettings

/-- Settings of a serial line. -/
structure SerialSettings where
  baudRate : UInt32 := 115200
  readTimeoutMillis : Nat := 50
  deriving DecidableEq, Repr

namespace SerialSettings

/-- How long one read may wait; never no time at all. -/
def readTimeout (s : SerialSettings) : Duration := Duration.ofMillis (max s.readTimeoutMillis 1)

/-- The record of the settings. -/
def toJson (s : SerialSettings) : Json :=
  .object [("baud_rate", .nat s.baudRate.toNat), ("read_timeout_ms", .nat s.readTimeoutMillis)]

/-- Reads the record of the settings. -/
def ofJson? (j : Json) : Option SerialSettings :=
  let d : SerialSettings := {}
  match Json.slots? ["baud_rate", "read_timeout_ms"] j with
  | some [baudRate, readTimeout] => do
    return ⟨← baudRate.orDefault d.baudRate Json.word32?,
      ← readTimeout.orDefault d.readTimeoutMillis Json.word64?⟩
  | _ => none

end SerialSettings

end CoreTrial
