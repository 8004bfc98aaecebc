import CoreTrial.Completion.Queue
import CoreTrial.Gateway.Mock
import CoreTrial.Pipeline.Basic

/-!
# Rehearsals

A rehearsal runs a pipeline against collaborators that follow a plan: how long each call takes,
and how it ends. The gateway is the mock gateway, unless the plan has a call end differently.
-/

set_option autoImplicit false

namespace CoreTrial

/-- How one build goes. -/
structure BuildPlan where
  exitCode : Option Int32
  stdout : String := ""
  stderr : String := ""
  delay : Duration := 0
  /-- The build tool cannot be started. -/
  launchError : Option String := none

/-- How the calls to the gateway go. -/
structure GatewayPlan where
  mock : MockGateway
  synthesizeDelay : Duration := 0
  /-- Synthesis fails where a source is not there. -/
  checkSources : Bool := false
  /-- Synthesis fails with this exit code and output. -/
  synthesizeFails : Option (Option Int32 × String) := none
  /-- The bitstream that a synthesis says it wrote. -/
  bitstream : Option Path := none
  flashDelay : Duration := 0
  /-- Programming the device takes longer than this. -/
  flashTimesOut : Option Duration := none
  analyzeDelay : Duration := 0
  analyzeFails : Option String := none
  /-- The metric that is reported, whichever is asked for. -/
  metric : Option String := none

/-- How a run goes. -/
structure RunPlan where
  /-- The builds in order. The last one repeats. -/
  builds : List BuildPlan
  gateway : GatewayPlan
  /-- The events of the channel, or why it cannot be opened. -/
  channel : Except IoError (List ChannelEvent)

/-- The world of a rehearsal. -/
structure Rehearsal where
  bench : Workbench
  /-- How many builds were started. -/
  builds : Nat
  /-- How many channels were opened. -/
  opened : Nat
  /-- The channel that was opened last. -/
  queue : Option EventQueue

namespace BuildPlan

/-- The build of a plan that has none. -/
def default : BuildPlan := { exitCode := some 0 }

/-- The plan of the build after `n` others. -/
def nth (plans : List BuildPlan) (n : Nat) : BuildPlan :=
  (plans[n]?.or plans.getLast?).getD default

/-- A build by a plan. -/
def run {σ : Type} (p : BuildPlan) (command : BuildCommand) (limit : Duration) :
    Work σ (Except BuildError BuildResult) := do
  if limit < p.delay then
    Work.pause limit
    return .error (.timeout limit)
  else
    Work.pause p.delay
    match p.launchError with
    | some text => return .error (.launch command.program (.told text))
    | none => return .ok ⟨p.exitCode, p.stdout, p.stderr, p.delay⟩

end BuildPlan

namespace GatewayPlan

/-- A synthesis by a plan. The mock gateway remembers its own bitstream. -/
def synthesize (p : GatewayPlan) (epoch : Timestamp) (sources : List Path) (top part : String) :
    Work Workbench (Except ToolError SynthesisArtifact) := do
  Work.pause p.synthesizeDelay
  let w ← Work.look
  match sources.find? fun s => p.checkSources && !w.files.exists s with
  | some s => return .error (.sourceNotFound s)
  | none =>
    match p.synthesizeFails with
    | some (exitCode, tail) => return .error (.commandFailed "vivado" exitCode tail)
    | none =>
      match ← (p.mock.calls epoch).synthesize sources top part with
      | .ok artifact =>
        return .ok { artifact with bitstream := p.bitstream.getD artifact.bitstream }
      | .error e => return .error e

/-- Programming a device by a plan. -/
def flash (p : GatewayPlan) (epoch : Timestamp) (bitstream : Path) (device : Option String) :
    Work Workbench (Except ToolError FlashConfirmation) := do
  Work.pause p.flashDelay
  match p.flashTimesOut with
  | some after => return .error (.timeout "flash" after)
  | none => (p.mock.calls epoch).flash bitstream device

/-- A report by a plan. -/
def analyze (p : GatewayPlan) (epoch : Timestamp) (metric : String) :
    Work Workbench (Except ToolError AnalysisReport) := do
  Work.pause p.analyzeDelay
  match p.analyzeFails with
  | some text => return .error (.io (.told text))
  | none => (p.mock.calls epoch).analyze (p.metric.getD metric)

/-- The calls of a plan. -/
def calls (p : GatewayPlan) (epoch : Timestamp) : Gateway Workbench where
  synthesize := p.synthesize epoch
  flash := p.flash epoch
  analyze := p.analyze epoch
  verify := (p.mock.calls epoch).verify

end GatewayPlan

namespace RunPlan

/-- The next build. -/
def build (p : RunPlan) (command : BuildCommand) (limit : Duration) :
    Work Rehearsal (Except BuildError BuildResult) := do
  let w ← Work.look
  Work.change fun w => { w with builds := w.builds + 1 }
  (BuildPlan.nth p.builds w.builds).run command limit

/-- Opens the channel. -/
def openChannel (p : RunPlan) : Work Rehearsal (Except IoError Unit) := do
  let now ← Work.now
  Work.change fun w => { w with opened := w.opened + 1 }
  match p.channel with
  | .error e => return .error e
  | .ok events =>
    Work.change fun w => { w with queue := some ⟨now, events⟩ }
    return .ok ()

/-- The collaborators of a plan. -/
def collaborators (p : RunPlan) (epoch : Timestamp) : Collaborators Rehearsal where
  files w := w.bench.files
  setFiles files w := { w with bench := { w.bench with files } }
  build _ command limit := p.build command limit
  gateway := (p.gateway.calls epoch).on (·.bench) fun bench w => { w with bench }
  openChannel := p.openChannel
  channel := EventQueue.channel.on Rehearsal.queue fun q w => { w with queue := some q }

end RunPlan

end CoreTrial
