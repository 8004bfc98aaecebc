import CoreTrial.FileSystem.Basic
import CoreTrial.Number.Decimal

/-!
# Run locks

Two runs that patch the same source would get in each other's way, so a run holds a lock on a
file. A lock belongs to the file itself: at most one lock on a file is live, by whatever path the
file was opened. While a lock is live the file holds the number of its holder's process, and a
released lock leaves the file empty.
-/

set_option autoImplicit false

namespace CoreTrial

/-- Why a lock is not acquired. -/
inductive LockError where
  | held (path : Path)
  | io (cause : IoError)
  deriving DecidableEq, Repr

/-- The text of the error. -/
def LockError.message : LockError → String
  | .held path => "Another run holds " ++ path.text
  | .io cause => "Lock file error: " ++ cause.message

/-- A lock that was acquired: the path it was asked for, and the number of the file. -/
structure RunLock where
  path : Path
  file : Nat
  deriving DecidableEq, Repr

/-- Files, and the numbers of those that are locked. -/
structure LockedFiles where
  files : FileSystem
  live : List Nat

namespace RunLock

/-- What a locked file holds. -/
def content (process : Nat) : ByteArray :=
  (String.ofList (Number.digits process) ++ "\n").toUTF8

/-- Acquires the lock on a file, which is created where it is not there. Whatever an earlier
holder left in it is overwritten. -/
def acquire (process : Nat) (path : Path) (w : LockedFiles) :
    LockedFiles × Except LockError RunLock :=
  match w.files.openToWrite path with
  | .error e => (w, .error (.io e))
  | .ok (files, place, .file number mode _) =>
    if w.live.contains number then ({ w with files }, .error (.held path))
    else
      (⟨files.put place (.file number mode (content process)), number :: w.live⟩,
        .ok ⟨path, number⟩)
  | .ok (files, _, _) => ({ w with files }, .error (.io .invalidArgument))

/-- Releases a lock. -/
def release (l : RunLock) (w : LockedFiles) : LockedFiles where
  files := w.files.truncate l.file
  live := w.live.erase l.file

end RunLock

end CoreTrial
