import CoreTrial.Activity
import CoreTrial.FileSystem.Basic
import CoreTrial.Text.Lines

/-!
# Processes

What is asked of an operating system that runs a program, and what is known of a program that
has ended. What a program does to the files, and how long it takes, is up to the launcher.
-/

set_option autoImplicit false

namespace CoreTrial

/-- A program with its arguments and the folder it is run in. -/
structure Launch where
  program : String
  args : List String
  folder : Path
  deriving DecidableEq, Repr

/-- What a program printed and how it ended; one that was killed has no exit code. -/
structure ProcessEnd where
  exitCode : Option Int32
  stdout : String
  stderr : String
  deriving DecidableEq, Repr

namespace ProcessEnd

/-- The program exited with 0. -/
def succeeded (e : ProcessEnd) : Bool :=
  e.exitCode == some 0

/-- The last `n` lines of both outputs. -/
def tail (e : ProcessEnd) (n : Nat) : List String :=
  Text.lastOf n (Text.lines e.stdout ++ Text.lines e.stderr)

end ProcessEnd

/-- Runs programs, or says why one cannot be started. -/
abbrev Launcher := Launch → Work FileSystem (Except IoError ProcessEnd)

end CoreTrial
