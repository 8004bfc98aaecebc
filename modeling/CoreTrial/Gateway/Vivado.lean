import CoreTrial.Gateway.Mock
import CoreTrial.Gateway.Script
import CoreTrial.Process
import CoreTrial.Text.Search
import CoreTrial.Utilization.Table

/-!
# The Vivado gateway

Every call writes a script into the build folder and has Vivado run it in batch mode. What
Vivado writes into that folder is read back. A testbench passes only if Vivado exits with 0 and
leaves a log without a failure.
-/

set_option autoImplicit false

namespace CoreTrial

/-- Where Vivado works, and how long a call may take. -/
structure VivadoGateway where
  buildDir : Path
  settings : VivadoSettings
  timeout : Duration

namespace VivadoGateway

/-- How many lines of output are kept of a call that failed. -/
def tailLines : Nat := 20

/-- The arguments that make Vivado run a script. -/
def batchArgs (log script : Path) : List String :=
  ["-mode", "batch", "-nojournal", "-log", log.text, "-source", script.text]

/-- Writes a script into the build folder. -/
def writeScript (g : VivadoGateway) (name script : String) (fs : FileSystem) :
    FileSystem × Except IoError Path :=
  match fs.makeFolders g.buildDir with
  | .error e => (fs, .error e)
  | .ok fs =>
    match fs.writeText (g.buildDir.child name) script with
    | .error e => (fs, .error e)
    | .ok fs => (fs, .ok (g.buildDir.child name))

/-- Has Vivado run a script. Gives the path of its log. -/
def runScript (g : VivadoGateway) (launcher : Launcher) (name script operation : String) :
    Work FileSystem (Except ToolError Path) := do
  match ← Work.act (g.writeScript name script) with
  | .error e => return .error (.io e)
  | .ok path =>
    let log := g.buildDir.child (operation ++ ".log")
    let ended ← (launcher ⟨g.settings.executable, batchArgs log path, ⟨"."⟩⟩).within g.timeout
    match ended with
    | none => return .error (.timeout operation g.timeout)
    | some (.error e) => return .error (.launch g.settings.executable e)
    | some (.ok e) =>
      if e.succeeded then return .ok log
      else return .error (.commandFailed g.settings.executable e.exitCode
        (String.intercalate "\n" (e.tail tailLines)))

/-- Work on the files of a workbench. -/
def onFiles {α : Type} (t : Work FileSystem α) : Work Workbench α :=
  t.on (·.files) fun files w => { w with files }

/-- The text of a log, or nothing where it cannot be read. -/
def logText (log : Path) : Work Workbench String := do
  let w ← Work.look
  return (w.files.readText log).toOption.getD ""

/-- The first source that is not there. -/
def missingSource? (sources : List Path) : Work Workbench (Option Path) := do
  let w ← Work.look
  return sources.find? fun p => !w.files.exists p

/-- Synthesizes a design. -/
def synthesize (g : VivadoGateway) (launcher : Launcher) (epoch : Timestamp) (sources : List Path)
    (top part : String) : Work Workbench (Except ToolError SynthesisArtifact) := do
  match ← missingSource? sources with
  | some p => return .error (.sourceNotFound p)
  | none =>
    let bitstream := g.buildDir.child (top ++ ".bit")
    let script := Script.synthesis sources top part g.buildDir bitstream
    match ← onFiles (g.runScript launcher "synthesize.tcl" script "synthesize") with
    | .error e => return .error e
    | .ok log =>
      let text ← logText log
      let now ← Work.now
      let artifact : SynthesisArtifact := {
        bitstream := bitstream
        log := log
        topModule := top
        partNumber := part
        summary := "Synthesis successful. Bitstream generated at " ++ bitstream.text
        createdAt := epoch.later now }
      Work.change fun w => { w with memory := w.memory.rememberSynthesis artifact sources text }
      return .ok artifact

/-- Programs a device. -/
def flash (g : VivadoGateway) (launcher : Launcher) (bitstream : Path) (device : Option String) :
    Work Workbench (Except ToolError FlashConfirmation) := do
  let w ← Work.look
  match w.memory.resolve w.files bitstream with
  | .error e => return .error e
  | .ok resolved =>
    let script := Script.program resolved device g.settings.hwServerUrl
    match ← onFiles (g.runScript launcher "flash.tcl" script "flash") with
    | .error e => return .error e
    | .ok _ =>
      let device := device.getD FlashConfirmation.defaultDevice
      return .ok {
        bitstream := resolved
        deviceId := device
        message := "Device " ++ device ++ " successfully flashed with " ++ resolved.text ++ "." }

/-- The text of a report. A utilization report is preceded by its summary. -/
def reportText (m : Metric) (raw : String) : String :=
  match m with
  | .utilization => Utilization.summarize raw ++ "\n\n" ++ raw
  | _ => raw

/-- The report of the build folder. -/
def analyze (g : VivadoGateway) (metric : String) (w : Workbench) :
    Workbench × Except ToolError AnalysisReport :=
  match Metric.read metric with
  | .error _ => (w, .ok (.unknownMetric metric))
  | .ok m =>
    match w.files.readText (g.buildDir.child m.reportFile) with
    | .ok raw => (w, .ok (.report m (reportText m raw)))
    | .error e => (w, .error (.io e))

/-- A log without a failure. -/
def logPasses (text : String) : Bool :=
  !Text.contains text "FAIL" && !Text.contains text "ERROR:"

/-- Runs a testbench on the sources of the last synthesis. -/
def verify (g : VivadoGateway) (launcher : Launcher) (testbench : Path) (kind : SimulationKind) :
    Work Workbench (Except ToolError VerificationReport) := do
  match ← missingSource? [testbench] with
  | some p => return .error (.sourceNotFound p)
  | none =>
    let w ← Work.look
    let script := Script.simulation w.memory.lastSources testbench kind
    match ← onFiles (g.runScript launcher "verify.tcl" script "verify") with
    | .ok log =>
      let text ← logText log
      if logPasses text then report true "Testbench passed."
      else report false "Testbench reported failures."
    | .error (.commandFailed _ _ tail) => report false tail
    | .error e => return .error e
where
  report (passed : Bool) (summary : String) :
      Work Workbench (Except ToolError VerificationReport) := do
    let r : VerificationReport := ⟨testbench, kind, passed, summary⟩
    Work.change fun w => { w with memory := w.memory.rememberVerification r }
    return .ok r

/-- The calls of the Vivado gateway, in a world whose time starts at `epoch`. -/
def calls (g : VivadoGateway) (launcher : Launcher) (epoch : Timestamp) : Gateway Workbench where
  synthesize := g.synthesize launcher epoch
  flash := g.flash launcher
  analyze metric := Work.act (g.analyze metric)
  verify := g.verify launcher

end VivadoGateway

/-- The gateway of a toolchain's settings. -/
def ToolchainSettings.gateway (s : ToolchainSettings) (launcher : Launcher) (epoch : Timestamp) :
    Gateway Workbench :=
  match s.backend with
  | .mock => MockGateway.calls ⟨s.buildDir, s.mock⟩ epoch
  | .vivado => VivadoGateway.calls ⟨s.buildDir, s.vivado, s.toolTimeout⟩ launcher epoch

end CoreTrial
