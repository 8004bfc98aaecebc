import CoreTrial.Artifact

/-!
# Stages

The seven stages of a run, in their order, and the entries of a run's log.
-/

set_option autoImplicit false

namespace CoreTrial

/-- A stage of a run. -/
inductive Stage where
  | inject
  | build
  | synthesize
  | flash
  | measure
  | analyze
  | score
  deriving DecidableEq, Repr

namespace Stage

/-- All stages, in order. -/
def all : List Stage := [.inject, .build, .synthesize, .flash, .measure, .analyze, .score]

/-- The place of a stage. -/
def index : Stage → Nat
  | .inject => 0
  | .build => 1
  | .synthesize => 2
  | .flash => 3
  | .measure => 4
  | .analyze => 5
  | .score => 6

/-- The name of a stage. -/
def name : Stage → String
  | .inject => "inject"
  | .build => "build"
  | .synthesize => "synthesize"
  | .flash => "flash"
  | .measure => "measure"
  | .analyze => "analyze"
  | .score => "score"

/-- The stages before a stage. -/
def before (s : Stage) : List Stage :=
  all.take s.index

/-- The stage after the last one that was recorded. Nothing comes after the score. -/
def after : Option Stage → Stage
  | none => .inject
  | some last => (all.find? fun s => decide (last.index < s.index)).getD last

/-- The record of a stage. -/
def toJson (s : Stage) : Json := .string s.name

/-- Reads the record of a stage. -/
def ofJson? : Json → Option Stage := Json.choice? (named? all name)

end Stage

/-- How a stage ended. -/
inductive StageStatus where
  | succeeded
  | warned
  | failed
  deriving DecidableEq, Repr

namespace StageStatus

/-- All ends. -/
def all : List StageStatus := [.succeeded, .warned, .failed]

/-- The name of an end. -/
def name : StageStatus → String
  | .succeeded => "succeeded"
  | .warned => "warned"
  | .failed => "failed"

/-- The record of an end. -/
def toJson (s : StageStatus) : Json := .string s.name

/-- Reads the record of an end. -/
def ofJson? : Json → Option StageStatus := Json.choice? (named? all name)

end StageStatus

/-- An entry of a run's log. -/
structure StageOutcome where
  stage : Stage
  status : StageStatus
  detail : String
  recordedAt : Timestamp
  deriving DecidableEq, Repr

namespace StageOutcome

/-- The record of an entry. -/
def toJson (o : StageOutcome) : Json :=
  .object [
    ("stage", o.stage.toJson),
    ("status", o.status.toJson),
    ("detail", .string o.detail),
    ("recorded_at", o.recordedAt.toJson)]

/-- Reads the record of an entry. -/
def ofJson? (j : Json) : Option StageOutcome :=
  match Json.slots? ["stage", "status", "detail", "recorded_at"] j with
  | some [stage, status, detail, recordedAt] => do
    return ⟨← stage.required Stage.ofJson?, ← status.required StageStatus.ofJson?,
      ← detail.required Json.string?, ← recordedAt.required Timestamp.ofJson?⟩
  | _ => none

end StageOutcome

end CoreTrial
