import CoreTrial.Gateway.Basic
import CoreTrial.Settings.Toolchain

/-!
# The mock gateway

A toolchain for trials without hardware. It writes a placeholder for the bitstream and reports
that are given beforehand, and every testbench passes. Its calls take no time.
-/

set_option autoImplicit false

namespace CoreTrial

/-- Where and what the mock gateway writes. -/
structure MockGateway where
  buildDir : Path
  settings : MockSettings := {}

namespace MockGateway

/-- What is reported of a design where the build folder has no report. -/
def cannedReport : Metric → String
  | .timing => "Timing constraints met. Worst Negative Slack: 0.5ns"
  | .power => "Power analysis complete: 1.7W Total"
  | .utilization => "LUT: 45%, FF: 30%, BRAM: 10%"

/-- The log of every synthesis. -/
def synthesisLog : String :=
  "Synthesis complete. 0 Errors. 5 Warnings."

/-- The content of every bitstream. -/
def bitstreamText : String :=
  "mock bitstream"

/-- Writes files in order, up to the first that cannot be written. -/
def writeFiles : List (Path × String) → FileSystem → FileSystem × Except IoError Unit
  | [], fs => (fs, .ok ())
  | (path, text) :: rest, fs =>
    match fs.writeText path text with
    | .ok fs => writeFiles rest fs
    | .error e => (fs, .error e)

/-- The bitstream of a top module. -/
def bitstreamPath (g : MockGateway) (top : String) : Path :=
  g.buildDir.child (top ++ ".bit")

/-- The log file. -/
def logPath (g : MockGateway) : Path :=
  g.buildDir.child "synthesis.log"

/-- The files that a synthesis writes, in order. -/
def outputs (g : MockGateway) (top : String) : List (Path × String) := [
  (g.bitstreamPath top, bitstreamText),
  (g.logPath, synthesisLog),
  (g.buildDir.child Metric.utilization.reportFile, g.settings.utilizationReport),
  (g.buildDir.child Metric.timing.reportFile, cannedReport .timing),
  (g.buildDir.child Metric.power.reportFile, cannedReport .power)]

/-- Writes the placeholders of a synthesis. -/
def synthesize (g : MockGateway) (createdAt : Timestamp) (sources : List Path) (top part : String)
    (w : Workbench) : Workbench × Except ToolError SynthesisArtifact :=
  match w.files.makeFolders g.buildDir with
  | .error e => (w, .error (.io e))
  | .ok files =>
    match writeFiles (g.outputs top) files with
    | (files, .error e) => ({ w with files }, .error (.io e))
    | (files, .ok ()) =>
      let artifact : SynthesisArtifact := {
        bitstream := g.bitstreamPath top
        log := g.logPath
        topModule := top
        partNumber := part
        summary := "Synthesis successful. Bitstream generated at " ++ (g.bitstreamPath top).text
          ++ ". Log: " ++ synthesisLog
        createdAt := createdAt }
      (⟨files, w.memory.rememberSynthesis artifact sources synthesisLog⟩, .ok artifact)

/-- Programs nothing; only a bitstream that is there or was produced is accepted. -/
def flash (bitstream : Path) (device : Option String) (w : Workbench) :
    Workbench × Except ToolError FlashConfirmation :=
  match w.memory.resolve w.files bitstream with
  | .error e => (w, .error e)
  | .ok resolved =>
    let device := device.getD FlashConfirmation.defaultDevice
    (w, .ok {
      bitstream := resolved
      deviceId := device
      message := "Device " ++ device ++ " successfully flashed with " ++ bitstream.text ++ "." })

/-- The report of the build folder, or the one that is given beforehand. -/
def analyze (g : MockGateway) (metric : String) (w : Workbench) :
    Workbench × Except ToolError AnalysisReport :=
  match Metric.read metric with
  | .error _ => (w, .ok (.unknownMetric metric))
  | .ok m =>
    match w.files.readText (g.buildDir.child m.reportFile) with
    | .ok text => (w, .ok (.report m text))
    | .error _ => (w, .ok (.report m (cannedReport m)))

/-- Every testbench passes. -/
def verify (testbench : Path) (kind : SimulationKind) (w : Workbench) :
    Workbench × Except ToolError VerificationReport :=
  let r : VerificationReport := ⟨testbench, kind, true, "Testbench passed. 100/100 tests passed."⟩
  ({ w with memory := w.memory.rememberVerification r }, .ok r)

/-- The calls of the mock gateway, in a world whose time starts at `epoch`. -/
def calls (g : MockGateway) (epoch : Timestamp) : Gateway Workbench where
  synthesize sources top part := do
    let now ← Work.now
    Work.act (g.synthesize (epoch.later now) sources top part)
  flash bitstream device := Work.act (flash bitstream device)
  analyze metric := Work.act (g.analyze metric)
  verify testbench kind := Work.act (verify testbench kind)

end MockGateway

end CoreTrial
