/-!
# Why a file operation fails
-/

set_option autoImplicit false

namespace CoreTrial

/-- Why a file operation fails. -/
inductive IoError where
  | notFound
  | permissionDenied
  | exists
  | notADirectory
  | isADirectory
  | invalidArgument
  | tooManyLinks
  | notExecutable
  | notEmpty
  | outOfMemory
  | interrupted
  | wouldBlock
  | timedOut
  /-- The other end of a channel is gone; the text says which. -/
  | brokenPipe (text : String)
  /-- The content of a file is no text. -/
  | notText
  /-- A path holds the character of code zero. -/
  | zeroInPath
  /-- A failure that another party describes. -/
  | told (text : String)
  deriving DecidableEq, Repr

/-- What the error says. -/
def IoError.reason : IoError → String
  | .notFound => "No such file or directory"
  | .permissionDenied => "Permission denied"
  | .exists => "File exists"
  | .notADirectory => "Not a directory"
  | .isADirectory => "Is a directory"
  | .invalidArgument => "Invalid argument"
  | .tooManyLinks => "Too many levels of symbolic links"
  | .notExecutable => "Exec format error"
  | .notEmpty => "Directory not empty"
  | .outOfMemory => "Cannot allocate memory"
  | .interrupted => "Interrupted system call"
  | .wouldBlock => "Resource temporarily unavailable"
  | .timedOut => "Connection timed out"
  | .brokenPipe text => text
  | .notText => "stream did not contain valid UTF-8"
  | .zeroInPath => "file name contained an unexpected NUL byte"
  | .told text => text

/-- The number of the error, where the operating system has one. -/
def IoError.number? : IoError → Option Nat
  | .notFound => some 2
  | .interrupted => some 4
  | .notExecutable => some 8
  | .wouldBlock => some 11
  | .outOfMemory => some 12
  | .permissionDenied => some 13
  | .exists => some 17
  | .notADirectory => some 20
  | .isADirectory => some 21
  | .invalidArgument => some 22
  | .notEmpty => some 39
  | .tooManyLinks => some 40
  | .timedOut => some 110
  | .brokenPipe _ | .notText | .zeroInPath | .told _ => none

/-- The text of the error. -/
def IoError.message (e : IoError) : String :=
  match e.number? with
  | some n => e.reason ++ " (os error " ++ toString n ++ ")"
  | none => e.reason

example : IoError.message .notFound = "No such file or directory (os error 2)" := by
  decide +kernel

end CoreTrial
