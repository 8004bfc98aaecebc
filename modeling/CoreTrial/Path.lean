import CoreTrial.Text.Search

/-!
# Paths

A path keeps its spelling. Two paths are the same when their components are: repeated slashes,
a slash at the end and a `.` that is not at the start do not count.
-/

set_option autoImplicit false

namespace CoreTrial

/-- A path of the file system that is text, as it is spelled. -/
structure Path where
  text : String
  deriving DecidableEq, Repr

namespace Path

/-- A component of a path. -/
inductive Component where
  /-- The slash at the start. -/
  | root
  /-- A `.` at the start. -/
  | here
  /-- A `..`. -/
  | up
  | name (s : String)
  deriving DecidableEq, Repr

/-- Starts with a slash. -/
def isAbsolute (p : Path) : Bool :=
  p.text.toList.head? == some '/'

/-- The non-empty pieces between the slashes. -/
def pieces (p : Path) : List String :=
  ((Text.splitOn '/' p.text.toList).filter (!·.isEmpty)).map String.ofList

/-- The component of a piece; a `.` has none. -/
def component? (piece : String) : Option Component :=
  if piece = "." then none
  else if piece = ".." then some .up
  else some (.name piece)

/-- The components of a path. -/
def components (p : Path) : List Component :=
  let start :=
    if p.isAbsolute then [.root]
    else if p.pieces.head? = some "." then [.here]
    else []
  start ++ p.pieces.filterMap component?

/-- Same components. -/
def same (p q : Path) : Bool :=
  p.components == q.components

/-- The last component, when it is a name. -/
def fileName? (p : Path) : Option String :=
  match p.components.getLast? with
  | some (.name s) => some s
  | _ => none

/-- Splits a file name at its last point. A name that starts with its only point has no
extension, and `..` has none. -/
def splitName (name : String) : String × Option String :=
  let parts := Text.splitOn '.' name.toList
  let stem := Text.join ['.'] parts.dropLast
  if parts.length < 2 || stem.isEmpty then (name, none)
  else (String.ofList stem, parts.getLast?.map String.ofList)

/-- The file name without its extension. -/
def stem? (p : Path) : Option String :=
  p.fileName?.map fun name => (splitName name).1

/-- The extension of the file name. -/
def extension? (p : Path) : Option String :=
  p.fileName?.bind fun name => (splitName name).2

/-- `q` seen from the folder `p`. -/
def join (p q : Path) : Path :=
  if q.isAbsolute || p.text.isEmpty then q
  else if p.text.toList.getLast? = some '/' then ⟨p.text ++ q.text⟩
  else ⟨p.text ++ "/" ++ q.text⟩

/-- The entry `name` of the folder `p`. -/
def child (p : Path) (name : String) : Path :=
  p.join ⟨name⟩

theorem same_iff {p q : Path} : p.same q = true ↔ p.components = q.components := by
  simp [same]

example : (⟨"a//b/./c/"⟩ : Path).same ⟨"a/b/c"⟩ = true := by decide +kernel
example : (⟨"./a"⟩ : Path).same ⟨"a"⟩ = false := by decide +kernel

end Path

end CoreTrial
