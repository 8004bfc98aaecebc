import CoreTrial.CommandLine.Execution
import CoreTrial.Settings.Layer
import CoreTrial.Shell.Run

/-!
# The program

Takes up the files below the working folder, answers the request of the command line among them,
and puts down what was changed. Every other program is run by the library's own shell.
-/

set_option autoImplicit false

namespace CoreTrial.Host

/-- The permission bits of a file that is taken up: any of them may be a script. -/
def takenMode : Nat := 0o755

/-- Takes up files, and all files in folders, below the folder that `start` names. -/
partial def takeUp (start : String) (entries : List IO.FS.DirEntry) (fs : FileSystem) :
    IO FileSystem := do
  match entries with
  | [] => return fs
  | e :: rest =>
    let path : Path := ⟨start ++ e.fileName⟩
    match (← e.path.metadata).type with
    | .dir =>
      let fs := (fs.makeFolders path).toOption.getD fs
      takeUp start rest (← takeUp (path.text ++ "/") (← e.path.readDir).toList fs)
    | .file =>
      let bytes ← IO.FS.readBinFile e.path
      let taken := do
        let fs ← fs.write path bytes
        fs.setMode path takenMode
      takeUp start rest (taken.toOption.getD fs)
    | _ => takeUp start rest fs

/-- The path from the working folder to a place in it. -/
def nameBelow? (home place : Place) : Option String :=
  if home.isSuffixOf place && home.length < place.length then
    some (String.intercalate "/" (place.take (place.length - home.length)).reverse)
  else none

/-- Creates the folders of `after` that are not in `before`, the outer ones first. -/
def putDownFolders (before after : FileSystem) : IO Unit := do
  let fresh : List String := after.nodes.filterMap fun n =>
    match n.2, before.get? n.1 with
    | .folder _, none => nameBelow? after.home n.1
    | _, _ => none
  for name in fresh.mergeSort fun a b => decide (a.length ≤ b.length) do
    IO.FS.createDirAll name

/-- Writes the files of `after` that are not the same in `before`. -/
def putDownFiles (before after : FileSystem) : IO Unit := do
  for n in after.nodes do
    match n.2, nameBelow? after.home n.1 with
    | .file _ _ bytes, some name =>
      let same := match before.get? n.1 with
        | some (.file _ _ earlier) => earlier == bytes
        | _ => false
      if !same then IO.FS.writeBinFile name bytes
    | _, _ => pure ()

/-- Takes away the files of `before` that are not in `after`. -/
def takeAway (before after : FileSystem) : IO Unit := do
  for n in before.nodes do
    match n.2, after.get? n.1, nameBelow? before.home n.1 with
    | .file _ _ _, none, some name => IO.FS.removeFile name
    | _, _, _ => pure ()

/-- Lets an activity happen in its own time. -/
partial def live {σ α : Type} : Activity σ α → IO (σ × α)
  | .done world answer => return (world, answer)
  | .wait _ time next => do
    IO.sleep (UInt32.ofNat (Duration.millis time))
    live (next ())
  | .never world => do
    IO.sleep 1000
    live (.never world)
  | .spins world => live (.spins world)

/-- The time. -/
def wallClock : IO Timestamp := do
  let (_, path) ← IO.FS.createTempFile
  let time := (← path.metadata).modified
  IO.FS.removeFile path
  return ⟨time.sec, time.nsec.toNat⟩

/-- The number of this process, where the system tells it. -/
def processNumber : IO Nat := do
  try
    let status ← IO.FS.readFile "/proc/self/stat"
    return (Number.readNat? (status.toList.takeWhile Char.isDigit)).getD 1
  catch _ => return 1

/-- The variables that the program looks at. -/
def environment : IO (List (String × String)) := do
  let given ← (CommandLine.standIns ++ Layer.variableNames).mapM fun name => do
    return (← IO.getEnv name).map fun value => (name, value)
  return given.filterMap id

/-- Random bits. -/
def entropy : IO Nat := do
  let bytes ← IO.getRandomBytes 16
  return bytes.toList.foldl (fun n b => n * 256 + b.toNat) 0

/-- Answers the request of the command line. -/
def run (args : List String) : IO UInt32 := do
  let environment ← environment
  let surroundings : CommandLine.Surroundings := {
    launcher := Shell.launcher environment
    environment := environment
    process := ← processNumber
    epoch := ← wallClock
    entropy := ← entropy }
  let entries := (← (← IO.currentDir).readDir).toList
  let before ← takeUp "" entries FileSystem.initial
  let (after, ending) ← live (CommandLine.execute surroundings args 0 ⟨before, []⟩)
  takeAway before after.files
  putDownFolders before after.files
  putDownFiles before after.files
  (← IO.getStdout).putStr ending.stdout
  (← IO.getStderr).putStr ending.stderr
  return UInt32.ofNat ending.code

end CoreTrial.Host

/-- The program. -/
def main (args : List String) : IO UInt32 :=
  CoreTrial.Host.run args
