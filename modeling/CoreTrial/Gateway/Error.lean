import CoreTrial.Build
import CoreTrial.FileSystem.Error

/-!
# Why a toolchain call fails
-/

set_option autoImplicit false

namespace CoreTrial

/-- Why a toolchain call fails. -/
inductive ToolError where
  /-- A bitstream that is not there and was not produced here. -/
  | artifactNotFound (path : Path)
  | sourceNotFound (path : Path)
  /-- The tool could not be started. -/
  | launch (tool : String) (cause : IoError)
  /-- The tool ran and reported a failure. -/
  | commandFailed (tool : String) (exitCode : Option Int32) (tail : String)
  | timeout (operation : String) (after : Duration)
  | io (cause : IoError)
  deriving DecidableEq, Repr

/-- The text of the error. -/
def ToolError.message : ToolError → String
  | .artifactNotFound path => "Bitstream " ++ path.text ++ " not found"
  | .sourceNotFound path => "HDL source " ++ path.text ++ " not found"
  | .launch tool cause => "Failed to launch " ++ tool ++ ": " ++ cause.message
  | .commandFailed tool exitCode tail =>
    tool ++ " exited with " ++ exitCodeText exitCode ++ ": " ++ tail
  | .timeout operation after => operation ++ " timed out after " ++ after.toText
  | .io cause => "IO error: " ++ cause.message

end CoreTrial
