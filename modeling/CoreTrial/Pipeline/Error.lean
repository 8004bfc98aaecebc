import CoreTrial.Build.Invocation
import CoreTrial.Completion.Monitor
import CoreTrial.Gateway.Error
import CoreTrial.Patch
import CoreTrial.Run.Draft

/-!
# Why a run fails
-/

set_option autoImplicit false

namespace CoreTrial

/-- Why a stage of a run fails. -/
inductive PipelineError where
  | program (cause : ProgramError)
  | patch (cause : PatchError)
  | build (cause : BuildError)
  /-- The build ran and did not succeed. -/
  | buildFailure (result : BuildResult)
  | tool (cause : ToolError)
  | monitor (cause : MonitorError)
  | score (cause : NonPositiveElapsed)
  | runTimeout (limit : Duration)
  | missingOutput (stage : Stage)
  deriving DecidableEq, Repr

/-- The text of the error. -/
def PipelineError.message : PipelineError → String
  | .program cause => "Invalid program: " ++ cause.message
  | .patch cause => cause.message
  | .build cause => cause.message
  | .buildFailure result => "Build failed with exit code " ++ exitCodeText result.exitCode
  | .tool cause => cause.message
  | .monitor cause => cause.message
  | .score cause => cause.message
  | .runTimeout limit => "Run exceeded overall timeout of " ++ limit.toText
  | .missingOutput stage => "No output recorded for stage " ++ stage.name

/-- A run that came to no score. -/
structure RunFailure where
  stage : Stage
  reason : PipelineError
  /-- What was done before. -/
  draft : Draft

/-- The text of the failure. -/
def RunFailure.message (f : RunFailure) : String :=
  "run failed at stage " ++ f.stage.name ++ ": " ++ f.reason.message

/-- A draft whose log ends in the failure of a stage. -/
def Draft.fail (d : Draft) (stage : Stage) (reason : PipelineError) (now : Timestamp) :
    RunFailure where
  stage := stage
  reason := reason
  draft := d.record stage .failed reason.message now

end CoreTrial
