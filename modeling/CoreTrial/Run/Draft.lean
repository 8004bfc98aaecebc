import CoreTrial.Build
import CoreTrial.Program
import CoreTrial.Run.Id
import CoreTrial.Run.Stage
import CoreTrial.Score
import CoreTrial.Utilization.Report

/-!
# Runs

A run is first a draft: a program, the outputs of the stages that have come to an end, and a log
with one entry a stage. A draft with all outputs is completed by a score.
-/

set_option autoImplicit false

namespace CoreTrial

/-- A run that is not over; its paths are of the type `π`. -/
structure Draft (π : Type := Path) where
  id : RunId
  program : Program
  startedAt : Timestamp
  build : Option BuildResult
  artifact : Option (SynthesisArtifact π)
  flash : Option (FlashConfirmation π)
  elapsed : Option Duration
  utilization : Option Utilization.Report
  stages : List StageOutcome

/-- A run that is over and has a score. -/
structure CompletedRun where
  id : RunId
  program : Program
  build : BuildResult
  artifact : SynthesisArtifact
  flash : FlashConfirmation
  elapsed : Duration
  utilization : Utilization.Report
  score : Score
  stages : List StageOutcome
  startedAt : Timestamp
  finishedAt : Timestamp

namespace Draft

/-- A run of which no stage has ended. -/
def begin (id : RunId) (program : Program) (now : Timestamp) : Draft where
  id := id
  program := program
  startedAt := now
  build := none
  artifact := none
  flash := none
  elapsed := none
  utilization := none
  stages := []

/-- Adds an entry to the log. -/
def record (d : Draft) (stage : Stage) (status : StageStatus) (detail : String) (now : Timestamp) :
    Draft :=
  { d with stages := d.stages ++ [⟨stage, status, detail, now⟩] }

/-- The stage of the last entry. -/
def lastStage? (d : Draft) : Option Stage :=
  d.stages.getLast?.map (·.stage)

/-- The completed run, or the first stage whose output is not there. -/
def complete (d : Draft) (score : Score) (now : Timestamp) : Except Stage CompletedRun :=
  match d.build, d.artifact, d.flash, d.elapsed, d.utilization with
  | none, _, _, _, _ => .error .build
  | some _, none, _, _, _ => .error .synthesize
  | some _, some _, none, _, _ => .error .flash
  | some _, some _, some _, none, _ => .error .measure
  | some _, some _, some _, some _, none => .error .analyze
  | some build, some artifact, some flash, some elapsed, some utilization =>
    .ok {
      id := d.id
      program := d.program
      build := build
      artifact := artifact
      flash := flash
      elapsed := elapsed
      utilization := utilization
      score := score
      stages := d.stages
      startedAt := d.startedAt
      finishedAt := now }

/-- The record of a draft; the elapsed time is in whole milliseconds. -/
def toJson (d : Draft) : Json :=
  .object [
    ("id", d.id.toJson),
    ("program", d.program.toJson),
    ("started_at", d.startedAt.toJson),
    ("build", Json.ofOption BuildResult.toJson d.build),
    ("artifact", Json.ofOption SynthesisArtifact.toJson d.artifact),
    ("flash", Json.ofOption FlashConfirmation.toJson d.flash),
    ("elapsed", Json.ofOption (fun t => .nat (Duration.millis t)) d.elapsed),
    ("utilization", Json.ofOption Utilization.Report.toJson d.utilization),
    ("stages", .array (d.stages.map StageOutcome.toJson))]

/-- Reads the record of a draft. -/
def ofJson? (j : Json) : Option Draft :=
  match Json.slots? ["id", "program", "started_at", "build", "artifact", "flash", "elapsed",
      "utilization", "stages"] j with
  | some [id, program, startedAt, build, artifact, flash, elapsed, utilization, stages] => do
    return {
      id := ← id.required RunId.ofJson?
      program := ← program.required Program.ofJson?
      startedAt := ← startedAt.required Timestamp.ofJson?
      build := ← build.optional BuildResult.ofJson?
      artifact := ← artifact.optional SynthesisArtifact.ofJson?
      flash := ← flash.optional FlashConfirmation.ofJson?
      elapsed := (← elapsed.optionalOrNone Json.word64?).map Duration.ofMillis
      utilization := ← utilization.optional Utilization.Report.ofJson?
      stages := ← stages.required (Json.list? StageOutcome.ofJson?) }
  | _ => none

end Draft

namespace CompletedRun

/-- The run and its score. -/
def describe (r : CompletedRun) : String :=
  "Run(" ++ r.id.describe ++ ", " ++ r.program.name ++ ", score=" ++ r.score.describe ++ ")"

/-- The record of a run; the elapsed time is in whole milliseconds. -/
def toJson (r : CompletedRun) : Json :=
  .object [
    ("id", r.id.toJson),
    ("program", r.program.toJson),
    ("build", r.build.toJson),
    ("artifact", r.artifact.toJson),
    ("flash", r.flash.toJson),
    ("elapsed", .nat (Duration.millis r.elapsed)),
    ("utilization", r.utilization.toJson),
    ("score", r.score.toJson),
    ("stages", .array (r.stages.map StageOutcome.toJson)),
    ("started_at", r.startedAt.toJson),
    ("finished_at", r.finishedAt.toJson)]

/-- Reads the record of a run. -/
def ofJson? (j : Json) : Option CompletedRun :=
  match Json.slots? ["id", "program", "build", "artifact", "flash", "elapsed", "utilization",
      "score", "stages", "started_at", "finished_at"] j with
  | some [id, program, build, artifact, flash, elapsed, utilization, score, stages, startedAt,
      finishedAt] => do
    return {
      id := ← id.required RunId.ofJson?
      program := ← program.required Program.ofJson?
      build := ← build.required BuildResult.ofJson?
      artifact := ← artifact.required SynthesisArtifact.ofJson?
      flash := ← flash.required FlashConfirmation.ofJson?
      elapsed := Duration.ofMillis (← elapsed.required Json.word64?)
      utilization := ← utilization.required Utilization.Report.ofJson?
      score := ← score.required Score.ofJson?
      stages := ← stages.required (Json.list? StageOutcome.ofJson?)
      startedAt := ← startedAt.required Timestamp.ofJson?
      finishedAt := ← finishedAt.required Timestamp.ofJson? }
  | _ => none

end CompletedRun

end CoreTrial
