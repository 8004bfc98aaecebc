import CoreTrial.Build
import CoreTrial.Process

/-!
# Running a build

A build runs in the folder of the hardware. It is killed when it takes longer than it may.
-/

set_option autoImplicit false

namespace CoreTrial

/-- Why a build has no result. -/
inductive BuildError where
  | launch (program : String) (cause : IoError)
  | timeout (after : Duration)
  deriving DecidableEq, Repr

/-- The text of the error. -/
def BuildError.message : BuildError → String
  | .launch program cause => "Failed to launch build tool " ++ program ++ ": " ++ cause.message
  | .timeout after => "Build timed out after " ++ after.toText

/-- The result of a build that took some time. -/
def BuildResult.ofEnd (e : ProcessEnd) (duration : Duration) : BuildResult where
  exitCode := e.exitCode
  stdout := e.stdout
  stderr := e.stderr
  duration := duration

/-- Runs a build. -/
def BuildCommand.run (c : BuildCommand) (launcher : Launcher) (folder : Path) (limit : Duration) :
    Work FileSystem (Except BuildError BuildResult) := do
  let started ← Work.now
  let ended ← (launcher ⟨c.program, c.args, folder⟩).within limit
  let now ← Work.now
  match ended with
  | none => return .error (.timeout limit)
  | some (.error e) => return .error (.launch c.program e)
  | some (.ok e) => return .ok (BuildResult.ofEnd e (now - started))

end CoreTrial
