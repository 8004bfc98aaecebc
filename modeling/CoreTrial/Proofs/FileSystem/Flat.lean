import CoreTrial.Proofs.FileSystem.Replace

/-!
# A folder of files

Where the working folder is the root, and holds nothing but files, a path of one name leads to the
file of that name or to a free place. So such a file can always be written, and it can be read only
when it is there.
-/

set_option autoImplicit false

namespace CoreTrial.FileSystem

/-- The working folder is the root, and files are all that stands in it. -/
structure Flat (fs : FileSystem) : Prop where
  home : fs.home = []
  root : fs.get? [] = some (.folder newFolderMode)
  files : ∀ name n, fs.get? [name] = some n → ∃ number mode bytes, n = .file number mode bytes

/-- A path of one name. -/
def isName (p : Path) (name : String) : Bool :=
  !p.text.toList.any (fun c => c.toNat == 0) && !p.text.isEmpty && pieces p == [name] &&
    name != "." && name != ".."

variable {fs : FileSystem} {p : Path} {name : String}

theorem Flat.target?_of_isName (flat : fs.Flat) (h : isName p name = true) (follow : Bool) :
    fs.target? follow p =
      .ok (match fs.get? [name] with
        | some n => .node [name] n
        | none => .free [name]) := by
  simp only [isName, Bool.and_eq_true, Bool.not_eq_true', beq_iff_eq, bne_iff_ne] at h
  obtain ⟨⟨⟨⟨plain, filled⟩, single⟩, here⟩, up⟩ := h
  have start : (if p.isAbsolute then [] else fs.home) = [] := by simp [flat.home]
  rw [target?, plain, filled, single, start, if_neg Bool.false_ne_true,
    if_neg Bool.false_ne_true]
  cases there : fs.get? [name] with
  | none =>
    rw [walk, flat.root]
    simp [here, up, there]
  | some n =>
    obtain ⟨number, mode, bytes, rfl⟩ := flat.files name n there
    have file : ∀ target, Node.file number mode bytes ≠ .link target := by
      rintro target ⟨⟩
    rw [walk_enter flat.root here up there file, walk, there]

/-- A name in the root folder leads to what stands there, unless it is a link. -/
theorem node?_of_isName {mode : Nat} {n : Node} (home : fs.home = [])
    (root : fs.get? [] = some (.folder mode)) (h : isName p name = true)
    (there : fs.get? [name] = some n) (no_link : ∀ target, n ≠ .link target) :
    fs.node? p = .ok ([name], n) := by
  simp only [isName, Bool.and_eq_true, Bool.not_eq_true', beq_iff_eq, bne_iff_ne] at h
  obtain ⟨⟨⟨⟨plain, filled⟩, single⟩, here⟩, up⟩ := h
  have start : (if p.isAbsolute then [] else fs.home) = [] := by simp [home]
  rw [node?, target?, plain, filled, single, start, if_neg Bool.false_ne_true,
    if_neg Bool.false_ne_true, walk_enter root here up there no_link, walk, there]

/-- A name in the root folder leads to the file that stands there. -/
theorem node?_file_of_isName {mode number bits : Nat} {bytes : ByteArray} (home : fs.home = [])
    (root : fs.get? [] = some (.folder mode)) (h : isName p name = true)
    (there : fs.get? [name] = some (.file number bits bytes)) :
    fs.node? p = .ok ([name], .file number bits bytes) :=
  node?_of_isName home root h there fun _ => Node.noConfusion

/-- A file in the root folder is read under its name. -/
theorem readText_of_isName {mode number bits : Nat} {text : String} (home : fs.home = [])
    (root : fs.get? [] = some (.folder mode)) (h : isName p name = true)
    (there : fs.get? [name] = some (.file number bits text.toUTF8)) : fs.readText p = .ok text := by
  rw [readText_eq_ok_iff, readBytes, node?_file_of_isName home root h there]

/-- What is not in the folder does not exist. -/
theorem Flat.exists_of_isName (flat : fs.Flat) (h : isName p name = true) :
    fs.exists p = (fs.get? [name]).isSome := by
  rw [FileSystem.exists, node?, flat.target?_of_isName h]
  cases fs.get? [name] <;> rfl

theorem Flat.node?_of_isName {n : Node} (flat : fs.Flat) (h : isName p name = true)
    (there : fs.get? [name] = some n) : fs.node? p = .ok ([name], n) := by
  obtain ⟨number, mode, bytes, rfl⟩ := flat.files name n there
  exact node?_file_of_isName flat.home flat.root h there

theorem Flat.put_file (flat : fs.Flat) (name : String) (number mode : Nat) (bytes : ByteArray) :
    (fs.put [name] (.file number mode bytes)).Flat where
  home := flat.home
  root := (get?_put_of_ne fs (.file number mode bytes) (List.cons_ne_nil name []).symm).trans
    flat.root
  files := by
    intro other n there
    by_cases same : other = name
    · subst same
      rw [get?_put_self] at there
      exact ⟨number, mode, bytes, (Option.some.inj there).symm⟩
    · rw [get?_put_of_ne fs _ (by simpa using same)] at there
      exact flat.files other n there

/-- A file of one name can be written. -/
theorem Flat.writeText (flat : fs.Flat) (h : isName p name = true) (text : String) :
    ∃ fs', fs.writeText p text = .ok fs' ∧ fs'.Flat := by
  have leads := flat.target?_of_isName h true
  unfold FileSystem.writeText write openToWrite
  cases there : fs.get? [name] with
  | none =>
    rw [there] at leads
    rw [leads]
    have created := flat.put_file name fs.next newFileMode .empty
    have opened : ({ fs.put [name] (.file fs.next newFileMode .empty) with next := fs.next + 1 } :
        FileSystem).Flat := ⟨created.home, created.root, created.files⟩
    exact ⟨_, rfl, opened.put_file name fs.next newFileMode text.toUTF8⟩
  | some n =>
    obtain ⟨number, mode, bytes, rfl⟩ := flat.files name n there
    rw [there] at leads
    rw [leads]
    exact ⟨_, rfl, flat.put_file name number mode text.toUTF8⟩

theorem Flat.isFolder_here (flat : fs.Flat) : fs.isFolder ⟨"."⟩ = true := by
  have plain : (Path.mk ".").text.toList.any (fun c => c.toNat == 0) = false := by decide
  have filled : (Path.mk ".").text.isEmpty = false := by decide
  have single : pieces ⟨"."⟩ = ["."] := by decide
  have start : (if (Path.mk ".").isAbsolute then [] else fs.home) = [] := by simp [flat.home]
  rw [isFolder, node?, target?, plain, filled, single, start, if_neg Bool.false_ne_true,
    if_neg Bool.false_ne_true, walk_here flat.root, walk, flat.root]

/-- A file of one name keeps its permission bits when it is replaced. -/
theorem Flat.replace (flat : fs.Flat) (h : isName p name = true) (here : folderOf p = ⟨"."⟩)
    {number mode : Nat} {old : ByteArray} (there : fs.get? [name] = some (.file number mode old))
    (bytes : ByteArray) :
    fs.replace p bytes =
      .ok { fs.put [name] (.file fs.next mode bytes) with next := fs.next + 1 } := by
  unfold FileSystem.replace
  rw [here, flat.isFolder_here, flat.node?_of_isName h there, flat.target?_of_isName h, there]

/-- A file of one name that was put there is read back. -/
theorem Flat.readText_put (flat : fs.Flat) (h : isName p name = true) (number mode : Nat)
    (text : String) :
    (fs.put [name] (.file number mode text.toUTF8)).readText p = .ok text := by
  have put := flat.put_file name number mode text.toUTF8
  exact readText_of_isName put.home put.root h (get?_put_self fs [name] _)

/-- A root folder with nothing in it. -/
def bare : FileSystem where
  nodes := [([], .folder newFolderMode)]
  home := []
  next := 0

theorem flat_bare : bare.Flat where
  home := rfl
  root := rfl
  files := by
    intro name n there
    cases there

end CoreTrial.FileSystem
