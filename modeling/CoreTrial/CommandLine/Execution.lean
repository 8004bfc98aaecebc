import CoreTrial.Benchmark
import CoreTrial.CommandLine.Report
import CoreTrial.Completion.Device
import CoreTrial.Completion.Queue
import CoreTrial.Gateway.Vivado
import CoreTrial.Pipeline.Basic
import CoreTrial.Settings.Layer

/-!
# Answering requests

A request is answered in the world of files and locks. A run and an injection hold the lock of
their hardware folder while they work, and release it however they end.
-/

set_option autoImplicit false

namespace CoreTrial.CommandLine

/-- What surrounds the program: other programs, the environment, the number of its process, the
time at its start, and random bits. -/
structure Surroundings where
  launcher : Launcher
  environment : List (String × String)
  process : Nat
  epoch : Timestamp
  entropy : Nat

/-! ## The line of a device -/

/-- Where the end of a program is told. -/
inductive LineSource where
  | device (path : Path)
  /-- No device: the byte comes by itself after some time. -/
  | timer (delay : Duration) (byte : UInt8)
  deriving DecidableEq, Repr

/-- A line on which the end of a program is told. -/
inductive CompletionLine where
  | closed
  | queue (queue : EventQueue)
  | device (device : Device)

namespace CompletionLine

/-- The next byte on the line. -/
def sample (now : Duration) : CompletionLine → CompletionLine × Except IoError (Option UInt8)
  | .closed => (.closed, .ok none)
  | .queue q => (.queue (q.sample now).1, (q.sample now).2)
  | .device d => (.device (d.sample now).1, (d.sample now).2)

/-- The line as a channel. -/
def channel : Channel CompletionLine where
  sample now l := l.sample now

end CompletionLine

/-- The world of a run: files, the memory of its gateway, and its line. -/
structure RunWorld where
  bench : Workbench
  line : CompletionLine

namespace LineSource

/-- The source that settings name. Vivado programs a real device, so one must be named. -/
def ofSettings (s : BenchSettings) : Except CommandError LineSource :=
  match s.completion.device, s.toolchain.backend with
  | some path, _ => .ok (.device path)
  | none, .mock =>
    .ok (.timer (Duration.ofMillis (max s.completion.mockDelayMillis 1)) s.run.monitor.sentinel)
  | none, .vivado =>
    .error (.settings "completion.device must be set when using the vivado backend")

/-- Opens the line. -/
def «open» (source : LineSource) : Work RunWorld (Except IoError Unit) := do
  let now ← Work.now
  match source with
  | .timer delay byte =>
    Work.change fun w => { w with line := .queue (EventQueue.after now delay byte) }
    return .ok ()
  | .device path =>
    let w ← Work.look
    match Device.open w.bench.files path now with
    | .error e => return .error e
    | .ok d =>
      Work.change fun w => { w with line := .device d }
      return .ok ()

end LineSource

/-! ## Runs -/

namespace RunOptions

/-- The settings of a run with these options. -/
def apply (o : RunOptions) (s : BenchSettings) : BenchSettings :=
  let millis (seconds : Number.Binary64) : Nat :=
    max ((seconds * Number.Binary64.ofNat 1000).roundWithin (UInt64.size - 1)) 1
  { s with
    run := { s.run with
      hardwareDir := o.hardwareDir.getD s.run.hardwareDir
      build := { s.run.build with
        onFailure := if o.continueOnBuildFailure then .continue else s.run.build.onFailure }
      runTimeoutSeconds := o.timeoutSeconds.getD s.run.runTimeoutSeconds }
    toolchain := { s.toolchain with backend := o.backend.getD s.toolchain.backend }
    completion := { s.completion with
      device := o.device.or s.completion.device
      serial := { s.completion.serial with
        baudRate := o.baudRate.getD s.completion.serial.baudRate }
      mockDelayMillis := (o.mockCompletion.map millis).getD s.completion.mockDelayMillis } }

end RunOptions

namespace Surroundings

/-- What a run works with. -/
def collaborators (e : Surroundings) (s : BenchSettings) (source : LineSource) :
    Collaborators RunWorld where
  files w := w.bench.files
  setFiles files w := { w with bench := { w.bench with files } }
  build folder command limit :=
    (command.run e.launcher folder limit).on (·.bench.files)
      fun files w => { w with bench := { w.bench with files } }
  gateway := (s.toolchain.gateway e.launcher e.epoch).on (·.bench) fun bench w => { w with bench }
  openChannel := source.open
  channel := CompletionLine.channel.on (fun w => some w.line) fun line w => { w with line }

/-- Work on the files while a lock is held on one of them. -/
def locked (e : Surroundings) (path : Path) (work : Work FileSystem Answer) :
    Work LockedFiles Answer := do
  match ← Work.act (RunLock.acquire e.process path) with
  | .error cause => return .failed (.lock cause)
  | .ok lock =>
    let answer ← work.on LockedFiles.files fun files w => { w with files }
    Work.change lock.release
    return answer

/-- Takes a program through all stages. -/
def runStages (e : Surroundings) (s : BenchSettings) (source : LineSource) (program : Program) :
    Work FileSystem (Except RunFailure CompletedRun) :=
  let p : Pipeline RunWorld := ⟨s.run, e.collaborators s source, e.epoch⟩
  fun now files =>
    (p.run (RunId.ofEntropy e.entropy) program now ⟨⟨files, .empty⟩, .closed⟩).embed
      (·.bench.files)

/-- The answer to a run that has ended. -/
def runAnswer (format : OutputFormat) : Except RunFailure CompletedRun → Answer
  | .ok r => .ok (runText format r)
  | .error f => ⟨if format = .table then stageTable f.draft.stages else "", some (.run f)⟩

/-- Runs a benchmark. -/
def run (e : Surroundings) (format : OutputFormat) (options : RunOptions) (s : BenchSettings) :
    Work LockedFiles Answer :=
  let s := options.apply s
  match Benchmark.byName options.benchmark, LineSource.ofSettings s with
  | .error cause, _ => return .failed (.program cause)
  | .ok _, .error cause => return .failed cause
  | .ok program, .ok source =>
    e.locked s.lockPath do
      let note := noteLine ("Running " ++ program.name ++ " on " ++ s.toolchain.backend.name
        ++ " backend")
      let answer := runAnswer format (← e.runStages s source program)
      return { answer with text := (if format = .table then note else "") ++ answer.text }

/-- Injects a benchmark into the source, or only looks for the place. -/
def inject (e : Surroundings) (benchmark : String) (hardwareDir : Option Path) (check : Bool)
    (s : BenchSettings) : Work LockedFiles Answer := do
  let s := { s with run := { s.run with hardwareDir := hardwareDir.getD s.run.hardwareDir } }
  let target := s.run.patchTarget
  if check then
    let w ← Work.look
    match Patch.check w.files target with
    | .error cause => return .failed (.patch cause)
    | .ok m =>
      return .ok (successLine ("Markers found in " ++ target.path.text ++ " (region bytes "
        ++ toString m.bodySpan.first ++ ".." ++ toString m.bodySpan.past ++ ")"))
  else match Benchmark.byName benchmark with
    | .error cause => return .failed (.program cause)
    | .ok program =>
      e.locked s.lockPath <| Work.act fun files =>
        match Patch.apply files target (Encoding.entries s.run.patch.encoding program) with
        | .error cause => (files, .failed (.patch cause))
        | .ok (files, outcome) =>
          (files, .ok (if outcome.changed then
              successLine ("Injected " ++ program.name ++ " (" ++ toString outcome.entries
                ++ " entries) into " ++ target.path.text)
            else noteLine (target.path.text ++ " already up to date")))

end Surroundings

/-! ## Programs and scores -/

/-- Prints a benchmark. -/
def programAnswer (output : OutputFormat) (benchmark : String) (format : Option EncodingFormat)
    (annotate : Bool) (s : BenchSettings) : Answer :=
  let defaults := s.run.patch.encoding
  match Benchmark.byName benchmark with
  | .error cause => .failed (.program cause)
  | .ok p =>
    .ok (programText output ⟨format.getD defaults.format, annotate || defaults.annotate⟩ p)

/-- The report that a time is scored against. -/
def reportOf (files : FileSystem) (report : Option String) (reportFile : Option Path) :
    Except CommandError String :=
  match report, reportFile with
  | some text, _ => .ok text
  | none, some path =>
    match files.readText path with
    | .ok text => .ok text
    | .error cause => .error (.io cause)
  | none, none => .error (.input "one of --report or --report-file is required")

/-- Scores a time. -/
def scoreAnswer (output : OutputFormat) (elapsed : Number.Binary64)
    (report : Except CommandError String) (key : String) : Answer :=
  match report with
  | .error cause => .failed cause
  | .ok text =>
    match Score.of elapsed text key with
    | .error cause => .failed (.score cause)
    | .ok s => .ok (scoreText output s)

/-! ## Toolchains -/

/-- The answer to a call, in a format or in a line. -/
def toolAnswer {α : Type} (format : OutputFormat) (inLine : α → String) (record : α → Json) :
    Except ToolError α → Answer
  | .error cause => .failed (.tool cause)
  | .ok a =>
    match format with
    | .table => .ok (inLine a)
    | format => .ok (recordText format (record a))

/-- A report of a design in a line; nobody knowing the metric is worth a warning. -/
def analysisLine (r : AnalysisReport) : String :=
  if r.isKnown then line r.text else warningLine r.text

/-- The outcome of a testbench in a line. -/
def verificationLine (r : VerificationReport) : String :=
  if r.passed then successLine r.describe else warningLine r.describe

/-- Calls a toolchain. What the request does not name is named by the settings. -/
def callTool (g : Gateway Workbench) (format : OutputFormat) (s : PipelineSettings) :
    ToolRequest → Work Workbench Answer
  | .synthesize sources top part => do
    let sources := if sources.isEmpty then s.hdlPaths else sources
    let result ← g.synthesize sources (top.getD s.synthesis.topModule)
      (part.getD s.synthesis.partNumber)
    return toolAnswer format (fun a => successLine a.summary) SynthesisArtifact.toJson result
  | .flash bitstream device => do
    let result ← g.flash bitstream (device.or s.synthesis.deviceId)
    return toolAnswer format (fun c => successLine c.message) FlashConfirmation.toJson result
  | .analyze metric => do
    match ← g.analyze metric with
    | .error cause => return .failed (.tool cause)
    | .ok r =>
      return .ok (if format = .table then analysisLine r else analysisText format r)
  | .verify testbench kind => do
    let result ← g.verify testbench kind
    return toolAnswer format verificationLine VerificationReport.toJson result

/-! ## Requests -/

namespace Surroundings

/-- Answers a request. -/
def answer (e : Surroundings) (format : OutputFormat) (s : BenchSettings) :
    Request → Work LockedFiles Answer
  | .run options => e.run format options s
  | .program benchmark encoding annotate =>
    return programAnswer format benchmark encoding annotate s
  | .inject benchmark hardwareDir check => e.inject benchmark hardwareDir check s
  | .score elapsed report reportFile key => do
    let w ← Work.look
    return scoreAnswer format elapsed (reportOf w.files report reportFile)
      (key.getD s.run.scoring.resourceKey)
  | .tool backend request =>
    let toolchain := { s.toolchain with backend := backend.getD s.toolchain.backend }
    let work := callTool (toolchain.gateway e.launcher e.epoch) format s.run request
    fun now w => (work now ⟨w.files, .empty⟩).embed fun bench => { w with files := bench.files }
  | .settings => return .ok (recordText .yaml s.toJson)

end Surroundings

/-- What is left of the program when it has ended. -/
structure Ending where
  code : Nat
  stdout : String
  stderr : String
  deriving DecidableEq, Repr

namespace Ending

/-- The program was called with arguments or settings that it does not understand. -/
def misuse (stderr : String) : Ending := ⟨2, "", stderr⟩

/-- The end after an answer. -/
def ofAnswer (a : Answer) : Ending :=
  match a.error with
  | none => ⟨0, a.text, ""⟩
  | some e => ⟨1, a.text, errorLine e.message⟩

/-- The end of a call that is no request. -/
def ofStop : Stop → Ending
  | .misuse => misuse ("error: the arguments make no call\n\n" ++ form.helpText [form.name])
  | .help form path => ⟨0, form.helpText path, ""⟩
  | .version => ⟨0, line (programName ++ " " ++ programVersion), ""⟩

end Ending

/-- The program: reads its arguments and its settings, and answers the request. -/
def execute (e : Surroundings) (args : List String) : Work LockedFiles Ending := do
  match Invocation.read e.environment args with
  | .error stop => return .ofStop stop
  | .ok invocation =>
    let w ← Work.look
    match BenchSettings.load? w.files invocation.settingsFile e.environment with
    | none =>
      return .misuse (errorLine (CommandError.message (.settings "the settings cannot be read")))
    | some s => return .ofAnswer (← e.answer invocation.output s invocation.request)

end CoreTrial.CommandLine
