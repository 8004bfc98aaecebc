import CoreTrial.FileSystem.Error
import CoreTrial.Path

/-!
# A file system

Nodes by place. A place is the list of names from a node up to the root, so the folder of a node
is the tail of its place. Every file has a number of its own: a file that takes the place of
another is another file. A path is followed from the working folder, or from the root, through
folders and links.
-/

set_option autoImplicit false

namespace CoreTrial

/-- Where a node stands: its name, the name of its folder, and so on up to the root. -/
abbrev Place := List String

/-- A character device. -/
inductive CharDevice where
  /-- Takes everything and holds nothing. -/
  | sink
  /-- Takes everything and holds zeros without end. -/
  | zeros
  deriving DecidableEq, Repr

/-- What stands at a place. -/
inductive Node where
  | folder (mode : Nat)
  | file (number : Nat) (mode : Nat) (bytes : ByteArray)
  | link (target : Path)
  | device (kind : CharDevice)

/-- The permission bits of a new file. -/
def newFileMode : Nat := 0o644

/-- The permission bits of a new folder. -/
def newFolderMode : Nat := 0o755

/-- Nodes by place, and the working folder. -/
structure FileSystem where
  nodes : List (Place × Node)
  home : Place
  /-- The number of the next new file. -/
  next : Nat

namespace FileSystem

/-- The node at a place. -/
def get? (fs : FileSystem) (p : Place) : Option Node :=
  (fs.nodes.find? fun n => n.1 == p).map (·.2)

/-- Puts a node at a place, instead of the one that stood there. -/
def put (fs : FileSystem) (p : Place) (n : Node) : FileSystem :=
  { fs with nodes := (p, n) :: fs.nodes.filter fun m => m.1 != p }

/-- Takes the node at a place away. -/
def erase (fs : FileSystem) (p : Place) : FileSystem :=
  { fs with nodes := fs.nodes.filter fun m => m.1 != p }

theorem get?_put_self (fs : FileSystem) (p : Place) (n : Node) : (fs.put p n).get? p = some n := by
  simp [get?, put]

theorem find?_filter_ne {l : List (Place × Node)} {p q : Place} (h : q ≠ p) :
    (l.filter fun m => m.1 != p).find? (fun n => n.1 == q) = l.find? fun n => n.1 == q := by
  induction l with
  | nil => rfl
  | cons m l ih =>
    by_cases hm : m.1 = p
    · have hq : (m.1 == q) = false := by
        simp only [beq_eq_false_iff_ne, ne_eq]
        exact fun e => h (e.symm.trans hm)
      have hp : (m.1 != p) = false := by simp [hm]
      rw [List.filter_cons, hp]
      simpa [List.find?_cons, hq] using ih
    · have hp : (m.1 != p) = true := by simpa using hm
      rw [List.filter_cons, hp]
      simp only [if_true, List.find?_cons]
      split
      · rfl
      · exact ih

theorem get?_put_of_ne (fs : FileSystem) {p q : Place} (n : Node) (h : q ≠ p) :
    (fs.put p n).get? q = fs.get? q := by
  have hpq : (p == q) = false := by simpa using fun e : p = q => h e.symm
  simp [get?, put, hpq, find?_filter_ne h]

theorem get?_erase_of_ne (fs : FileSystem) {p q : Place} (h : q ≠ p) :
    (fs.erase p).get? q = fs.get? q := by
  simp [get?, erase, find?_filter_ne h]

/-- The end of a path: a node, or a free place in a folder. -/
inductive Target where
  | node (place : Place) (node : Node)
  | free (place : Place)

/-- The pieces of a path. One that ends in a slash must end at a folder, as if it ended in the
name of the folder itself. -/
def pieces (p : Path) : List String :=
  p.pieces ++ if p.text.toList.getLast? = some '/' then ["."] else []

/-- Follows the pieces of a path from a place, through at most `links` links. A link at the end
is followed on demand. -/
def walk (fs : FileSystem) (followLast : Bool) (links : Nat) (at_ : Place) (rest : List String) :
    Except IoError Target :=
  match rest with
  | [] =>
    match fs.get? at_ with
    | some n => .ok (.node at_ n)
    | none => .error .notFound
  | piece :: rest =>
    match fs.get? at_ with
    | some (.folder _) =>
      if piece = "." then walk fs followLast links at_ rest
      else if piece = ".." then walk fs followLast links at_.tail rest
      else match fs.get? (piece :: at_) with
        | none => if rest.isEmpty then .ok (.free (piece :: at_)) else .error .notFound
        | some (.link target) =>
          if rest.isEmpty && !followLast then .ok (.node (piece :: at_) (.link target))
          else match links with
            | 0 => .error .tooManyLinks
            | links + 1 =>
              walk fs followLast links (if target.isAbsolute then [] else at_)
                (pieces target ++ rest)
        | some _ => walk fs followLast links (piece :: at_) rest
    | some _ => .error .notADirectory
    | none => .error .notFound
termination_by (links, rest.length)

/-- The number of links that are followed on one path. -/
def linkLimit : Nat := 40

/-- The end of a path. -/
def target? (fs : FileSystem) (followLast : Bool) (p : Path) : Except IoError Target :=
  if p.text.toList.any fun c => c.toNat == 0 then .error .zeroInPath
  else if p.text.isEmpty then .error .notFound
  else walk fs followLast linkLimit (if p.isAbsolute then [] else fs.home) (pieces p)

/-- The node a path leads to. -/
def node? (fs : FileSystem) (p : Path) : Except IoError (Place × Node) :=
  match fs.target? true p with
  | .ok (.node place n) => .ok (place, n)
  | .ok (.free _) => .error .notFound
  | .error e => .error e

/-- A path leads to a node. -/
def «exists» (fs : FileSystem) (p : Path) : Bool :=
  (fs.node? p).toBool

/-- A path leads to a folder. -/
def isFolder (fs : FileSystem) (p : Path) : Bool :=
  match fs.node? p with
  | .ok (_, .folder _) => true
  | _ => false

/-- The bytes of a file. -/
def readBytes (fs : FileSystem) (p : Path) : Except IoError ByteArray :=
  match fs.node? p with
  | .ok (_, .file _ _ bytes) => .ok bytes
  | .ok (_, .folder _) => .error .isADirectory
  | .ok (_, .device .sink) => .ok .empty
  | .ok (_, .device .zeros) => .error .outOfMemory
  | .ok (_, .link _) => .error .tooManyLinks
  | .error e => .error e

/-- The text of a file. -/
def readText (fs : FileSystem) (p : Path) : Except IoError String :=
  match fs.readBytes p with
  | .ok bytes =>
    match String.fromUTF8? bytes with
    | some s => .ok s
    | none => .error .notText
  | .error e => .error e

/-- Opens a file to write to it: one that is there stays the same file, and one that is not is
created empty. -/
def openToWrite (fs : FileSystem) (p : Path) : Except IoError (FileSystem × Place × Node) :=
  match fs.target? true p with
  | .ok (.node place n) =>
    match n with
    | .folder _ => .error .isADirectory
    | .link _ => .error .tooManyLinks
    | n => .ok (fs, place, n)
  | .ok (.free place) =>
    let n := Node.file fs.next newFileMode .empty
    .ok ({ fs.put place n with next := fs.next + 1 }, place, n)
  | .error e =>
    -- a name that ends in a slash cannot be the name of a new file
    match fs.target? true ⟨String.ofList (p.text.toList.reverse.dropWhile (· == '/')).reverse⟩ with
    | .ok (.free _) => .error .isADirectory
    | _ => .error e

/-- Gives a file these bytes, and creates it where it is not there. -/
def write (fs : FileSystem) (p : Path) (bytes : ByteArray) : Except IoError FileSystem :=
  match fs.openToWrite p with
  | .ok (fs, place, .file number mode _) => .ok (fs.put place (.file number mode bytes))
  | .ok (fs, _, _) => .ok fs
  | .error e => .error e

/-- Gives a file this text, and creates it where it is not there. -/
def writeText (fs : FileSystem) (p : Path) (text : String) : Except IoError FileSystem :=
  fs.write p text.toUTF8

/-- Creates one folder. -/
def makeFolder (fs : FileSystem) (p : Path) : Except IoError FileSystem :=
  let bare : Path := ⟨String.ofList (p.text.toList.reverse.dropWhile (· == '/')).reverse⟩
  match fs.target? false (if bare.text.isEmpty then p else bare) with
  | .ok (.node _ _) => .error .exists
  | .ok (.free place) => .ok (fs.put place (.folder newFolderMode))
  | .error e => .error e

/-- The path of components. -/
def ofComponents (cs : List Path.Component) : Path :=
  cs.foldl (fun p c => p.join ⟨match c with
    | .root => "/"
    | .here => "."
    | .up => ".."
    | .name s => s⟩) ⟨""⟩

/-- Creates a folder, whose components are given from the last on, and the folders it stands in. -/
def makeFoldersFrom (fs : FileSystem) : List Path.Component → Except IoError FileSystem
  | [] => .ok fs
  | c :: rest =>
    let p := ofComponents (c :: rest).reverse
    match fs.makeFolder p with
    | .ok fs => .ok fs
    | .error .notFound =>
      match makeFoldersFrom fs rest with
      | .error e => .error e
      | .ok fs =>
        match fs.makeFolder p with
        | .ok fs => .ok fs
        | .error e => if fs.isFolder p then .ok fs else .error e
    | .error e => if fs.isFolder p then .ok fs else .error e

/-- Creates a folder and the folders it stands in, where they are not there. -/
def makeFolders (fs : FileSystem) (p : Path) : Except IoError FileSystem :=
  if p.text.toList.any fun c => c.toNat == 0 then .error .zeroInPath
  else fs.makeFoldersFrom p.components.reverse

/-- Takes a file or a link away. -/
def remove (fs : FileSystem) (p : Path) : Except IoError FileSystem :=
  match fs.target? false p with
  | .ok (.node _ (.folder _)) => .error .isADirectory
  | .ok (.node place _) => .ok (fs.erase place)
  | .ok (.free _) => .error .notFound
  | .error e => .error e

/-- Gives a file or folder these permission bits. -/
def setMode (fs : FileSystem) (p : Path) (mode : Nat) : Except IoError FileSystem :=
  match fs.node? p with
  | .ok (place, .file number _ bytes) => .ok (fs.put place (.file number mode bytes))
  | .ok (place, .folder _) => .ok (fs.put place (.folder mode))
  | .ok _ => .ok fs
  | .error e => .error e

/-- Creates a link. -/
def makeLink (fs : FileSystem) (p target : Path) : Except IoError FileSystem :=
  if target.text.isEmpty then .error .notFound
  else match fs.target? false p with
    | .ok (.node _ _) => .error .exists
    | .ok (.free place) => .ok (fs.put place (.link target))
    | .error e => .error e

/-- The node at the end of a path, which may be a link. -/
def stat? (fs : FileSystem) (p : Path) : Option Node :=
  match fs.target? false p with
  | .ok (.node _ n) => some n
  | _ => none

/-- The names in a folder, in order. -/
def list (fs : FileSystem) (p : Path) : Except IoError (List String) :=
  match fs.node? p with
  | .ok (place, .folder _) =>
    .ok ((fs.nodes.filterMap fun n =>
      match n.1 with
      | name :: folder => if folder = place then some name else none
      | [] => none).mergeSort fun a b => decide (a ≤ b))
  | .ok _ => .error .notADirectory
  | .error e => .error e

/-- Takes an empty folder away. -/
def removeFolder (fs : FileSystem) (p : Path) : Except IoError FileSystem :=
  match fs.target? false p with
  | .ok (.node place (.folder _)) =>
    if fs.nodes.any fun n => n.1.tail == place && n.1 != [] then .error .notEmpty
    else .ok (fs.erase place)
  | .ok (.node _ _) => .error .notADirectory
  | .ok (.free _) => .error .notFound
  | .error e => .error e

/-- Takes a node away, with everything that stands in it. -/
def removeAll (fs : FileSystem) (p : Path) : Except IoError FileSystem :=
  match fs.target? false p with
  | .ok (.node place _) =>
    .ok { fs with nodes := fs.nodes.filter fun n => !place.isSuffixOf n.1 }
  | .ok (.free _) => .error .notFound
  | .error e => .error e

/-- Gives the node at the end of a path another place; a file that stands there goes away. -/
def rename (fs : FileSystem) (p q : Path) : Except IoError FileSystem :=
  match fs.target? false p, fs.target? false q with
  | .ok (.node old (.folder _)), .ok (.free new) =>
    .ok { fs with nodes := fs.nodes.map fun n =>
        if old.isSuffixOf n.1 then (n.1.take (n.1.length - old.length) ++ new, n.2) else n }
  | .ok (.node _ (.folder _)), .ok (.node _ _) => .error .exists
  | .ok (.node _ _), .ok (.node _ (.folder _)) => .error .isADirectory
  | .ok (.node old n), .ok (.node new _) => .ok ((fs.erase old).put new n)
  | .ok (.node old n), .ok (.free new) => .ok ((fs.erase old).put new n)
  | .ok (.free _), _ => .error .notFound
  | .error e, _ => .error e
  | _, .error e => .error e

/-- The path of the folder that a path's last name stands in. -/
def folderOf (p : Path) : Path :=
  let folder := ofComponents p.components.dropLast
  if folder.text.isEmpty then ⟨"."⟩ else folder

/-- Puts a new file with these bytes in the place of the node that a path names, with the
permission bits of the file that the path leads to. It happens in one step: a new file is written
beside the old one and then takes its name. -/
def replace (fs : FileSystem) (p : Path) (bytes : ByteArray) : Except IoError FileSystem :=
  let mode := match fs.node? p with
    | .ok (_, .file _ mode _) => mode
    | _ => 0o600
  match fs.isFolder (folderOf p), fs.target? false p with
  | false, _ => .error .notFound
  | true, .ok (.node _ (.folder _)) => .error .isADirectory
  | true, .ok (.node place _) =>
    .ok { fs.put place (.file fs.next mode bytes) with next := fs.next + 1 }
  | true, .ok (.free place) =>
    .ok { fs.put place (.file fs.next mode bytes) with next := fs.next + 1 }
  | true, .error e => .error e

/-- Empties the file of a number, wherever it stands. -/
def truncate (fs : FileSystem) (number : Nat) : FileSystem :=
  { fs with nodes := fs.nodes.map fun n =>
      match n with
      | (place, .file k mode bytes) =>
        (place, .file k mode (if k = number then .empty else bytes))
      | n => n }

/-- Puts bytes at the end of the file of a number. -/
def appendTo (fs : FileSystem) (number : Nat) (more : ByteArray) : FileSystem :=
  { fs with nodes := fs.nodes.map fun n =>
      match n with
      | (place, .file k mode bytes) =>
        (place, .file k mode (if k = number then bytes ++ more else bytes))
      | n => n }

/-- A file system with the usual devices and an empty working folder. -/
def initial : FileSystem where
  nodes := [
    ([], .folder newFolderMode),
    (["dev"], .folder newFolderMode),
    (["null", "dev"], .device .sink),
    (["zero", "dev"], .device .zeros),
    (["etc"], .folder newFolderMode),
    (["passwd", "etc"], .file 0 newFileMode "root:x:0:0:root:/root:/bin/sh\n".toUTF8),
    (["tmp"], .folder 0o1777),
    (["work", "tmp"], .folder 0o700)]
  home := ["work", "tmp"]
  next := 1

end FileSystem

end CoreTrial
