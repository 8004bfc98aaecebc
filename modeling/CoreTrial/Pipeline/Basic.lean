import CoreTrial.Gateway.Basic
import CoreTrial.Pipeline.Error
import CoreTrial.Settings.Pipeline

/-!
# Pipelines

A run takes a program through all stages, strictly in order: it is injected into the source, the
hardware is built and synthesized, the device is programmed, the time of the program is measured,
the design is analyzed, and the run is scored. Each stage leaves its output and one entry in the
draft of the run before the next one starts. The first failure ends the run. A limit on the whole
run ends it in the stage that it strikes.
-/

set_option autoImplicit false

namespace CoreTrial

/-- What a pipeline works with, as parts of one world. -/
structure Collaborators (σ : Type) where
  /-- The files among which the source is patched. -/
  files : σ → FileSystem
  setFiles : FileSystem → σ → σ
  /-- Runs a build in a folder, within a limit. -/
  build : Path → BuildCommand → Duration → Work σ (Except BuildError BuildResult)
  gateway : Gateway σ
  /-- Opens the channel of the device that has just been programmed. -/
  openChannel : Work σ (Except IoError Unit)
  channel : Channel σ

/-- Settings and collaborators, in a world whose time starts at `epoch`. -/
structure Pipeline (σ : Type) where
  settings : PipelineSettings
  parts : Collaborators σ
  epoch : Timestamp

/-- The stage at which a run fails, and why. -/
structure StageFailure where
  stage : Stage
  reason : PipelineError
  deriving DecidableEq, Repr

/-- A run in progress: the world, and the draft of the run. -/
structure Attempt (σ : Type) where
  world : σ
  draft : Draft

/-- A part of a run. -/
abbrev Step (σ α : Type) := ExceptT StageFailure (Work (Attempt σ)) α

namespace Step

variable {σ α ε : Type}

/-- A call to a collaborator on behalf of a stage. -/
def call (stage : Stage) (reason : ε → PipelineError) (t : Work σ (Except ε α)) : Step σ α :=
  ExceptT.mk do
    match ← t.on Attempt.world (fun w a => { a with world := w }) with
    | .ok a => return .ok a
    | .error e => return .error ⟨stage, reason e⟩

/-- Something that is known at once. -/
def check (stage : Stage) (reason : ε → PipelineError) (r : Except ε α) : Step σ α :=
  ExceptT.mk (pure (match r with
    | .ok a => .ok a
    | .error e => .error ⟨stage, reason e⟩))

/-- Puts the output of a stage into the draft. -/
def keep (f : Draft → Draft) : Step σ Unit :=
  ExceptT.lift (Work.change fun a => { a with draft := f a.draft })

/-- Adds an entry to the log. -/
def record (epoch : Timestamp) (stage : Stage) (status : StageStatus) (detail : String) :
    Step σ Unit :=
  ExceptT.lift do
    let now ← Work.now
    Work.change fun a => { a with draft := a.draft.record stage status detail (epoch.later now) }

end Step

namespace Pipeline

variable {σ : Type}

/-- Injects a program into the source. -/
def patchSource (p : Pipeline σ) (program : Program) (world : σ) :
    σ × Except PatchError PatchOutcome :=
  let entries := Encoding.entries p.settings.patch.encoding program
  match Patch.apply (p.parts.files world) p.settings.patchTarget entries with
  | .ok (files, outcome) => (p.parts.setFiles files world, .ok outcome)
  | .error e => (world, .error e)

/-- The log's text of a patch. -/
def patchDetail (o : PatchOutcome) : String :=
  if o.changed then "wrote " ++ toString o.entries ++ " entries" else "program already present"

/-- Injects the program. -/
def inject (p : Pipeline σ) (program : Program) : Step σ Unit := do
  let outcome ← Step.call .inject .patch (Work.act (p.patchSource program))
  Step.record p.epoch .inject .succeeded (patchDetail outcome)

/-- Builds the hardware. Whether the run goes on after a build that does not succeed is up to the
settings. -/
def build (p : Pipeline σ) : Step σ Unit := do
  let s := p.settings.build
  let result ← Step.call .build .build (p.parts.build p.settings.hardwareDir s.command s.timeout)
  Step.keep fun d => { d with build := some result }
  if result.succeeded then Step.record p.epoch .build .succeeded result.describe
  else match s.onFailure with
    | .abort => throw ⟨.build, .buildFailure result⟩
    | .continue => Step.record p.epoch .build .warned result.describe

/-- Synthesizes the design. -/
def synthesize (p : Pipeline σ) : Step σ SynthesisArtifact := do
  let s := p.settings.synthesis
  let artifact ← Step.call .synthesize .tool
    (p.parts.gateway.synthesize p.settings.hdlPaths s.topModule s.partNumber)
  Step.keep fun d => { d with artifact := some artifact }
  Step.record p.epoch .synthesize .succeeded artifact.summary
  return artifact

/-- Programs the device with the bitstream. -/
def flash (p : Pipeline σ) (artifact : SynthesisArtifact) : Step σ Unit := do
  let confirmation ← Step.call .flash .tool
    (p.parts.gateway.flash artifact.bitstream p.settings.synthesis.deviceId)
  Step.keep fun d => { d with flash := some confirmation }
  Step.record p.epoch .flash .succeeded confirmation.message

/-- Measures the time of the program. -/
def measure (p : Pipeline σ) : Step σ Duration := do
  let s := p.settings.monitor
  Step.call .measure (fun e => .monitor (.channel e)) p.parts.openChannel
  let elapsed ← Step.call .measure .monitor
    ((Monitor.every s.pollInterval).await p.parts.channel s.sentinel s.timeout)
  Step.keep fun d => { d with elapsed := some elapsed }
  Step.record p.epoch .measure .succeeded (elapsed.seconds.toFixed 4 ++ "s")
  return elapsed

/-- Has the design's utilization reported. -/
def analyze (p : Pipeline σ) : Step σ Utilization.Report := do
  let report ← Step.call .analyze .tool (p.parts.gateway.analyze Metric.utilization.name)
  let utilization := Utilization.Report.parse report.text
  Step.keep fun d => { d with utilization := some utilization }
  Step.record p.epoch .analyze .succeeded utilization.describe
  return utilization

/-- Scores the run. -/
def score (p : Pipeline σ) (elapsed : Duration) (utilization : Utilization.Report) :
    Step σ Score := do
  let score ← Step.check .score .score
    (Score.of elapsed.seconds utilization.raw p.settings.scoring.resourceKey)
  Step.record p.epoch .score (if score.defaulted then .warned else .succeeded) score.describe
  return score

/-- All stages in order. -/
def stages (p : Pipeline σ) (program : Program) : Step σ Score := do
  p.inject program
  p.build
  let artifact ← p.synthesize
  p.flash artifact
  let elapsed ← p.measure
  let utilization ← p.analyze
  p.score elapsed utilization

/-- The end of a run: `result` is nothing where the limit struck. -/
def conclude (p : Pipeline σ) (draft : Draft) (now : Timestamp) :
    Option (Except StageFailure Score) → Except RunFailure CompletedRun
  | none =>
    .error (draft.fail (Stage.after draft.lastStage?) (.runTimeout p.settings.runTimeout) now)
  | some (.error f) => .error (draft.fail f.stage f.reason now)
  | some (.ok score) =>
    match draft.complete score now with
    | .ok run => .ok run
    | .error missing => .error (draft.fail missing (.missingOutput missing) now)

/-- All stages within the limit, and the end of the run. -/
def attempt (p : Pipeline σ) (program : Program) :
    Work (Attempt σ) (Except RunFailure CompletedRun) := do
  let result ← (p.stages program).run.within p.settings.runTimeout
  let a ← Work.look
  let now ← Work.now
  return p.conclude a.draft (p.epoch.later now) result

/-- Takes a program through all stages. -/
def run (p : Pipeline σ) (id : RunId) (program : Program) :
    Work σ (Except RunFailure CompletedRun) :=
  fun now world =>
    (p.attempt program now ⟨world, Draft.begin id program (p.epoch.later now)⟩).embed Attempt.world

end Pipeline

end CoreTrial
