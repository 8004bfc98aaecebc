import CoreTrial.Json.Record
import CoreTrial.Path
import CoreTrial.Text.Blank
import CoreTrial.Text.Lines
import CoreTrial.Time.Duration

/-!
# Builds

The command that generates a design's hardware description, and what came of running it. A
command that ran has a result, whatever its exit code; only a command that could not be started
or did not end in time is an error.
-/

set_option autoImplicit false

namespace CoreTrial

/-- A program and its arguments. -/
structure BuildCommand where
  program : String
  args : List String
  deriving DecidableEq, Repr

namespace BuildCommand

/-- The command of a design that does not name one. -/
def default : BuildCommand where
  program := "sbt"
  args := ["runMain cpu.TopMain"]

/-- The command as a line; arguments with blanks stand in quotes. -/
def describe (c : BuildCommand) : String :=
  c.args.foldl (fun line arg => line ++ " " ++ quoteBlanks arg) c.program
where
  quoteBlanks (arg : String) : String :=
    if arg.toList.any Text.isBlank then "\"" ++ arg ++ "\"" else arg

/-- The record of a command. -/
def toJson (c : BuildCommand) : Json :=
  .object [("program", .string c.program), ("args", .array (c.args.map .string))]

/-- Reads the record of a command. -/
def ofJson? (j : Json) : Option BuildCommand :=
  match Json.slots? ["program", "args"] j with
  | some [program, args] => do
    return ⟨← program.required Json.string?, ← args.orDefault [] (Json.list? Json.string?)⟩
  | _ => none

end BuildCommand

/-- The text of an exit code: a process that was killed has none. -/
def exitCodeText : Option Int32 → String
  | some code => "Some(" ++ toString code.toInt ++ ")"
  | none => "None"

/-- What a build printed and how it ended. -/
structure BuildResult where
  exitCode : Option Int32
  stdout : String
  stderr : String
  duration : Duration
  deriving DecidableEq, Repr

namespace BuildResult

/-- The build exited with 0. -/
def succeeded (r : BuildResult) : Bool :=
  r.exitCode == some 0

/-- The lines of both outputs. -/
def outputLines (r : BuildResult) : List String :=
  Text.lines r.stdout ++ Text.lines r.stderr

/-- The last `n` lines of both outputs. -/
def tail (r : BuildResult) (n : Nat) : List String :=
  Text.lastOf n r.outputLines

/-- How the build ended and how long it took. -/
def describe (r : BuildResult) : String :=
  let ending := match r.exitCode with
    | some code => "exit=" ++ toString code.toInt
    | none => "killed"
  "Build(" ++ ending ++ ", " ++ r.duration.seconds.toFixed 1 ++ "s)"

/-- The record of a result; the duration is in whole milliseconds. -/
def toJson (r : BuildResult) : Json :=
  .object [
    ("exit_code", Json.ofOption (fun c => .int c.toInt) r.exitCode),
    ("stdout", .string r.stdout),
    ("stderr", .string r.stderr),
    ("duration", .nat r.duration.millis)]

/-- Reads the record of a result. -/
def ofJson? (j : Json) : Option BuildResult :=
  match Json.slots? ["exit_code", "stdout", "stderr", "duration"] j with
  | some [exitCode, stdout, stderr, duration] => do
    return {
      exitCode := ← exitCode.optional Json.signed32?
      stdout := ← stdout.required Json.string?
      stderr := ← stderr.required Json.string?
      duration := Duration.ofMillis (← duration.required Json.word64?) }
  | _ => none

end BuildResult

end CoreTrial
