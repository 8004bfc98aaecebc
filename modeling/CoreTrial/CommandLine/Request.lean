import CoreTrial.Artifact
import CoreTrial.Backend
import CoreTrial.CommandLine.Form
import CoreTrial.Encoding
import CoreTrial.Number.Binary64.Reader
import CoreTrial.Number.Decimal

/-!
# Requests of the command line

What can be asked of the program, and how it is asked.
-/

set_option autoImplicit false

namespace CoreTrial.CommandLine

open Number (Binary64)

/-- How an answer is printed. -/
inductive OutputFormat where
  | table
  | json
  | yaml
  deriving DecidableEq, Repr

namespace OutputFormat

/-- All formats. -/
def all : List OutputFormat := [.table, .json, .yaml]

/-- The name of a format. -/
def name : OutputFormat → String
  | .table => "table"
  | .json => "json"
  | .yaml => "yaml"

end OutputFormat

/-- What a run is to do differently from its settings. -/
structure RunOptions where
  benchmark : String
  backend : Option Backend
  hardwareDir : Option Path
  device : Option Path
  baudRate : Option UInt32
  /-- The time of a program on no device, in seconds. -/
  mockCompletion : Option Binary64
  timeoutSeconds : Option Nat
  continueOnBuildFailure : Bool

/-- A call of a toolchain. -/
inductive ToolRequest where
  | synthesize (sources : List Path) (top part : Option String)
  | flash (bitstream : Path) (device : Option String)
  | analyze (metric : String)
  | verify (testbench : Path) (kind : SimulationKind)

/-- What is asked of the program. -/
inductive Request where
  | run (options : RunOptions)
  | program (benchmark : String) (format : Option EncodingFormat) (annotate : Bool)
  | inject (benchmark : String) (hardwareDir : Option Path) (check : Bool)
  | score (elapsed : Binary64) (report : Option String) (reportFile : Option Path)
      (key : Option String)
  | tool (backend : Option Backend) (request : ToolRequest)
  | settings

/-- A request with what holds for all requests. -/
structure Invocation where
  settingsFile : Option String
  output : OutputFormat
  request : Request

/-! ## Texts of options -/

/-- Any text. -/
def anyText (_ : String) : Bool := true

/-- A path has a text. -/
def path? (s : String) : Option Path :=
  if s.isEmpty then none else some ⟨s⟩

/-- A number in digits, perhaps after a plus, that is less than `bound`. -/
def natBelow? (bound : Nat) (s : String) : Option Nat :=
  let digits := match s.toList with
    | '+' :: rest => rest
    | chars => chars
  (Number.readNat? digits).filter (decide <| · < bound)

/-- A number of 32 bits; zero may have a minus. -/
def word32? (s : String) : Option UInt32 :=
  match s.toList with
  | '-' :: digits => ((Number.readNat? digits).filter (· == 0)).map fun _ => 0
  | _ => (natBelow? UInt32.size s).map UInt32.ofNat

/-- A number of 64 bits. -/
def word64? (s : String) : Option Nat := natBelow? UInt64.size s

/-- A number of seconds that is positive and finite. -/
def positiveSeconds? (s : String) : Option Binary64 :=
  (Binary64.read? s).filter Binary64.isPositiveFinite

/-- A format. -/
def outputFormat? (s : String) : Option OutputFormat :=
  named? OutputFormat.all OutputFormat.name s

/-- A back end. -/
def backend? (s : String) : Option Backend := (Backend.read s).toOption

/-- A format of instructions. -/
def encodingFormat? (s : String) : Option EncodingFormat := (EncodingFormat.read s).toOption

/-- A kind of simulation. -/
def simulationKind? (s : String) : Option SimulationKind := (SimulationKind.read s).toOption

/-- A text is accepted where it can be read. -/
def readable {α : Type} (read : String → Option α) (s : String) : Bool := (read s).isSome

/-! ## Forms -/

/-- Asks for help. -/
def helpOption : OptionForm where
  name := "help"
  letter := some 'h'
  action := .help
  about := "Print help"

/-- Asks for the version. -/
def versionOption : OptionForm where
  name := "version"
  letter := some 'V'
  action := .version
  about := "Print version"

/-- Names a benchmark. -/
def benchmarkOption : OptionForm where
  name := "benchmark"
  letter := some 'b'
  action := .value anyText
  about := "Built-in benchmark name [default: matmul]"

/-- Names a back end. -/
def backendOption : OptionForm where
  name := "backend"
  action := .value (readable backend?)
  standIn := some "BENCHLOOP_BACKEND"
  about := "Toolchain backend (mock, vivado)"

/-- Names the folder of the hardware. -/
def hardwareDirOption : OptionForm where
  name := "hardware-dir"
  action := .value (readable path?)
  standIn := some "BENCHLOOP_HARDWARE_DIR"
  about := "Hardware project root"

/-- An option with a text. -/
def textOption (name about : String) : OptionForm where
  name := name
  action := .value anyText
  about := about

/-- A flag. -/
def flagOption (name about : String) : OptionForm where
  name := name
  action := .flag
  about := about

/-- The command that runs a benchmark. -/
def runForm : CommandForm :=
  .mk "run" "Run the full benchmark loop" [
    benchmarkOption,
    backendOption,
    hardwareDirOption,
    { textOption "device" "Device carrying the completion byte" with
      action := .value (readable path?) },
    { textOption "baud-rate" "Serial baud rate of the device" with
      action := .value (readable word32?) },
    { textOption "mock-completion" "Simulated execution time in seconds (mock backend only)" with
      action := .value (readable positiveSeconds?) },
    { textOption "timeout-secs" "Overall run timeout in seconds" with
      action := .value (readable word64?) },
    flagOption "continue-on-build-failure" "Keep going after a failed build",
    helpOption] .none []

/-- The command that prints a benchmark. -/
def programForm : CommandForm :=
  .mk "program" "Print the encoded benchmark program" [
    benchmarkOption,
    { textOption "format" "Literal format (chisel, verilog); defaults to the configured format" with
      letter := some 'f'
      action := .value (readable encodingFormat?) },
    flagOption "annotate" "Append mnemonics as block comments",
    helpOption] .none []

/-- The command that injects a benchmark. -/
def injectForm : CommandForm :=
  .mk "inject" "Inject the benchmark program into the design source" [
    benchmarkOption,
    hardwareDirOption,
    flagOption "check" "Only verify that the markers are present",
    helpOption] .none []

/-- The command that scores a time. -/
def scoreForm : CommandForm :=
  .mk "score" "Score a measured time against a utilization report" [
    { textOption "elapsed" "Measured execution time in seconds" with
      letter := some 'e'
      action := .value (readable Binary64.read?)
      isRequired := true },
    { textOption "report" "Utilization report text" with
      letter := some 'r'
      excludes := some "report-file" },
    { textOption "report-file" "File holding the utilization report" with
      action := .value (readable path?) },
    { textOption "key" "Resource key; defaults to the configured key" with
      letter := some 'k' },
    helpOption] .none []

/-- The commands that call a toolchain. -/
def toolForms : List CommandForm := [
  .mk "synthesize" "Synthesize HDL sources into a bitstream" [
    textOption "top" "Top module",
    textOption "part" "FPGA part number",
    helpOption] (.many "HDL_FILES" (readable path?)) [],
  .mk "flash" "Program a device with a bitstream" [
    textOption "device" "Target device",
    helpOption] (.one "BITSTREAM" (readable path?)) [],
  .mk "analyze" "Report timing, power or utilization" [helpOption] (.one "METRIC" anyText) [],
  .mk "verify" "Simulate a testbench" [
    { textOption "kind" "behavioral, post-synthesis or post-implementation" with
      action := .value (readable simulationKind?) },
    helpOption] (.one "TESTBENCH" (readable path?)) []]

/-- The command that calls a toolchain. -/
def toolForm : CommandForm :=
  .mk "tool" "Call the toolchain directly" [backendOption, helpOption] .none toolForms

/-- The name of the program. -/
def programName : String := "benchloop"

/-- The version of the program. -/
def programVersion : String := "0.1.3"

/-- The program as a command. -/
def form : CommandForm :=
  .mk programName "Benchmark and score FPGA CPU designs" [
    { textOption "config" "Configuration file path" with
      letter := some 'c'
      standIn := some "BENCHLOOP_CONFIG" },
    { textOption "output" "Output format (table, json, yaml) [default: table]" with
      letter := some 'o'
      action := .value (readable outputFormat?) },
    { flagOption "verbose" "Enable verbose output" with letter := some 'v' },
    { flagOption "log-json" "Emit logs as JSON" with standIn := some "BENCHLOOP_LOG_JSON" },
    helpOption,
    versionOption] .none [
    runForm, programForm, injectForm, scoreForm, toolForm,
    .mk "config" "Show effective configuration" [helpOption] .none []]

/-- The variables of the environment that stand in for options. -/
def standIns : List String :=
  (form.options ++ runForm.options).filterMap (·.standIn)

/-! ## Reading -/

namespace Given

/-- What the text of an option stands for. -/
def read? {α : Type} (g : Given) (name : String) (read : String → Option α) : Option α :=
  (g.value? name).bind read

/-- The benchmark that is named, or the one that is built in. -/
def benchmark (g : Given) : String :=
  (g.value? "benchmark").getD "matmul"

/-- The first operand as a path. -/
def pathOperand (g : Given) : Path :=
  ⟨g.operands.headD ""⟩

end Given

/-- The request that was made by calling a toolchain. -/
def ToolRequest.ofGiven? (name : String) (g : Given) : Option ToolRequest :=
  match name with
  | "synthesize" => some (.synthesize (g.operands.map Path.mk) (g.value? "top") (g.value? "part"))
  | "flash" => some (.flash g.pathOperand (g.value? "device"))
  | "analyze" => some (.analyze (g.operands.headD ""))
  | "verify" =>
    some (.verify g.pathOperand ((g.read? "kind" simulationKind?).getD .behavioral))
  | _ => none

/-- The request that was made by calling commands. -/
def Request.ofCalls? : List (String × Given) → Option Request
  | [("run", g)] => some (.run {
      benchmark := g.benchmark
      backend := g.read? "backend" backend?
      hardwareDir := g.read? "hardware-dir" path?
      device := g.read? "device" path?
      baudRate := g.read? "baud-rate" word32?
      mockCompletion := g.read? "mock-completion" positiveSeconds?
      timeoutSeconds := g.read? "timeout-secs" word64?
      continueOnBuildFailure := g.has "continue-on-build-failure" })
  | [("program", g)] =>
    some (.program g.benchmark (g.read? "format" encodingFormat?) (g.has "annotate"))
  | [("inject", g)] => some (.inject g.benchmark (g.read? "hardware-dir" path?) (g.has "check"))
  | [("score", g)] => do
    let elapsed ← g.read? "elapsed" Binary64.read?
    return .score elapsed (g.value? "report") (g.read? "report-file" path?) (g.value? "key")
  | [("tool", g), (name, call)] =>
    (ToolRequest.ofGiven? name call).map (.tool (g.read? "backend" backend?))
  | [("config", _)] => some .settings
  | _ => none

/-- Reads the arguments of the program. -/
def Invocation.read (environment : List (String × String)) (args : List String) :
    Except Stop Invocation := do
  match ← form.read environment args with
  | (_, g) :: calls =>
    match Request.ofCalls? calls with
    | some request =>
      return ⟨g.value? "config", (g.read? "output" outputFormat?).getD .table, request⟩
    | none => throw .misuse
  | [] => throw .misuse

end CoreTrial.CommandLine
