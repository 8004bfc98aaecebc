import CoreTrial.Proofs.FileSystem.Frame

/-!
# Replacing a file step by step

A file is replaced by a new one that is made beside it: the new file is created, filled, written
through to the disk, given the permission bits of the old one, and then takes its name. The
operating system can refuse each of these steps. The new file is then removed, and every place holds
what it held (`replaceStaged_error`). Where no step is refused, all of them together are `replace`
(`replaceStaged_ok`, `replaceStaged_untroubled`).
-/

set_option autoImplicit false

namespace CoreTrial.FileSystem

/-- The steps in which a file is replaced. -/
inductive ReplaceStep where
  | create
  | fill
  | sync
  | permit
  | rename
  deriving DecidableEq, Repr

/-- The steps that the operating system refuses, and why. -/
abbrev Faults := ReplaceStep → Option IoError

/-- The operating system refuses nothing. -/
def noFaults : Faults := fun _ => none

/-- The permission bits of a file that is made beside another one. -/
def besideMode : Nat := 0o600

/-- Gives the file at a place these bytes. -/
def fill (place : Place) (bytes : ByteArray) (fs : FileSystem) : Except IoError FileSystem :=
  match fs.get? place with
  | some (.file number mode _) => .ok (fs.put place (.file number mode bytes))
  | _ => .error .notFound

/-- Gives the file at a place the permission bits of the file that a path leads to, if it leads to
one. -/
def permit (place : Place) (p : Path) (fs : FileSystem) : Except IoError FileSystem :=
  match fs.get? place, fs.node? p with
  | some (.file number _ bytes), .ok (_, .file _ mode _) =>
    .ok (fs.put place (.file number mode bytes))
  | _, _ => .ok fs

/-- Gives the node at a place the name that a path ends in. -/
def renameTo (place : Place) (p : Path) (fs : FileSystem) : Except IoError FileSystem :=
  match fs.get? place, fs.target? false p with
  | none, _ => .error .notFound
  | some _, .ok (.node _ (.folder _)) => .error .isADirectory
  | some n, .ok t => .ok ((fs.erase place).put t.place n)
  | some _, .error e => .error e

/-- Takes steps one after the other, up to the first that is refused or fails. -/
def takeSteps (faults : Faults) :
    FileSystem → List (ReplaceStep × (FileSystem → Except IoError FileSystem)) →
      FileSystem × Except IoError Unit
  | fs, [] => (fs, .ok ())
  | fs, (step, act) :: rest =>
    match faults step with
    | some e => (fs, .error e)
    | none =>
      match act fs with
      | .error e => (fs, .error e)
      | .ok fs => takeSteps faults fs rest

/-- The steps that make a new file ready beside an old one. -/
def readySteps (beside : Place) (p : Path) (bytes : ByteArray) :
    List (ReplaceStep × (FileSystem → Except IoError FileSystem)) :=
  [(.fill, fill beside bytes), (.sync, .ok), (.permit, permit beside p)]

/-- Creates an empty file at a place. -/
def create (beside : Place) (fs : FileSystem) : FileSystem :=
  { fs.put beside (.file fs.next besideMode .empty) with next := fs.next + 1 }

/-- Replaces the file that a path names by a new one with these bytes, step by step. The new file is
made in the folder of the old one, under a name that must be free, and removed again where a step is
refused or fails. -/
def replaceStaged (faults : Faults) (name : String) (fs : FileSystem) (p : Path)
    (bytes : ByteArray) : FileSystem × Except IoError Unit :=
  match fs.node? (folderOf p) with
  | .ok (folder, .folder _) =>
    match faults .create with
    | some e => (fs, .error e)
    | none =>
      if (fs.get? (name :: folder)).isSome then (fs, .error .exists)
      else
        match takeSteps faults (fs.create (name :: folder))
            (readySteps (name :: folder) p bytes) with
        | (fs, .error e) => (fs.erase (name :: folder), .error e)
        | (fs, .ok ()) =>
          match takeSteps faults fs [(.rename, renameTo (name :: folder) p)] with
          | (fs, .error e) => (fs.erase (name :: folder), .error e)
          | (fs, .ok ()) => (fs, .ok ())
  | _ => (fs, .error .notFound)

/-- The places of both file systems hold the same, this one apart. -/
structure SameAway (x : Place) (fs fs' : FileSystem) : Prop where
  home : fs'.home = fs.home
  same : ∀ a, a ≠ x → fs'.get? a = fs.get? a

variable {fs fs₁ fs' : FileSystem} {x beside place folder : Place} {p : Path} {n : Node}
  {bytes : ByteArray} {faults : Faults} {name : String} {e : IoError}

theorem SameAway.trans (h : SameAway x fs fs₁) (h' : SameAway x fs₁ fs') : SameAway x fs fs' where
  home := h'.home.trans h.home
  same a away := (h'.same a away).trans (h.same a away)

theorem sameAway_put (fs : FileSystem) (x : Place) (n : Node) : SameAway x fs (fs.put x n) where
  home := rfl
  same _ away := get?_put_of_ne fs n away

theorem sameAway_create (fs : FileSystem) (x : Place) : SameAway x fs (fs.create x) where
  home := rfl
  same _ away := get?_put_of_ne fs _ away

theorem get?_erase_self (fs : FileSystem) (x : Place) : (fs.erase x).get? x = none := by
  simp [get?, erase]

theorem erase_put (fs : FileSystem) (x : Place) (n : Node) : (fs.put x n).erase x = fs.erase x := by
  simp [erase, put]

theorem put_put (fs : FileSystem) (x : Place) (n m : Node) : (fs.put x n).put x m = fs.put x m := by
  simp [put]

theorem erase_of_free (free : fs.get? x = none) : fs.erase x = fs := by
  have away : ∀ m ∈ fs.nodes, (m.1 != x) = true := by
    simpa [get?] using free
  rw [erase, List.filter_eq_self.2 away]

theorem sameAway_of_fill (h : fill x bytes fs = .ok fs') : SameAway x fs fs' := by
  unfold fill at h
  split at h
  · cases h
    exact sameAway_put fs x _
  · cases h

theorem sameAway_of_permit (h : permit x p fs = .ok fs') : SameAway x fs fs' := by
  unfold permit at h
  split at h
  · cases h
    exact sameAway_put fs x _
  · cases h
    exact ⟨rfl, fun _ _ => rfl⟩

/-- Steps that touch one place at most leave all others alone, wherever they stop. -/
theorem sameAway_takeSteps {steps : List (ReplaceStep × (FileSystem → Except IoError FileSystem))}
    (h : ∀ s ∈ steps, ∀ g g', s.2 g = .ok g' → SameAway x g g') (fs : FileSystem) :
    SameAway x fs (takeSteps faults fs steps).1 := by
  induction steps generalizing fs with
  | nil => exact ⟨rfl, fun _ _ => rfl⟩
  | cons s rest ih =>
    obtain ⟨step, act⟩ := s
    rw [takeSteps]
    cases faults step with
    | some e => exact ⟨rfl, fun _ _ => rfl⟩
    | none =>
      cases acted : act fs with
      | error e => exact ⟨rfl, fun _ _ => rfl⟩
      | ok fs₁ =>
        have first := h (step, act) List.mem_cons_self fs fs₁ acted
        exact first.trans (ih (fun s mem => h s (List.mem_cons_of_mem _ mem)) fs₁)

theorem sameAway_ready (faults : Faults) (fs : FileSystem) (x : Place) (p : Path)
    (bytes : ByteArray) : SameAway x fs (takeSteps faults fs (readySteps x p bytes)).1 := by
  refine sameAway_takeSteps ?_ fs
  simp only [readySteps, List.forall_mem_cons, List.not_mem_nil, false_imp_iff, implies_true,
    and_true]
  refine ⟨fun _ _ => sameAway_of_fill, ?_, fun _ _ => sameAway_of_permit⟩
  rintro g _ ⟨⟩
  exact ⟨rfl, fun _ _ => rfl⟩

theorem takeSteps_single_error {step : ReplaceStep} {act : FileSystem → Except IoError FileSystem}
    (h : takeSteps faults fs [(step, act)] = (fs', .error e)) : fs' = fs := by
  rw [takeSteps] at h
  cases refused : faults step with
  | some e' =>
    rw [refused] at h
    cases h
    rfl
  | none =>
    cases acted : act fs with
    | error e' =>
      rw [refused, acted] at h
      cases h
      rfl
    | ok fs₁ =>
      rw [refused, acted] at h
      cases h

/-- Once the file beside is removed, nothing is left of it. -/
theorem SameAway.erase (h : SameAway x fs fs₁) (free : fs.get? x = none) (a : Place) :
    (fs₁.erase x).get? a = fs.get? a := by
  by_cases same : a = x
  · rw [same, get?_erase_self, free]
  · rw [get?_erase_of_ne fs₁ same, h.same a same]

/-- A replacement that fails, at whatever step, leaves every place as it was. -/
theorem replaceStaged_error (h : replaceStaged faults name fs p bytes = (fs', .error e)) :
    fs'.home = fs.home ∧ ∀ a, fs'.get? a = fs.get? a := by
  unfold replaceStaged at h
  split at h
  · rename_i folder mode leads
    split at h
    · cases h
      exact ⟨rfl, fun _ => rfl⟩
    · split at h
      · cases h
        exact ⟨rfl, fun _ => rfl⟩
      · rename_i taken
        have free : fs.get? (name :: folder) = none := Option.not_isSome_iff_eq_none.1 taken
        have ready := (sameAway_create fs (name :: folder)).trans
          (sameAway_ready faults (fs.create (name :: folder)) (name :: folder) p bytes)
        split at h
        · rename_i fs₁ e' stopped
          rw [stopped] at ready
          cases h
          exact ⟨ready.home, ready.erase free⟩
        · rename_i fs₁ made
          rw [made] at ready
          split at h
          · rename_i fs₂ e' stopped
            cases takeSteps_single_error stopped
            cases h
            exact ⟨ready.home, ready.erase free⟩
          · cases h
  · cases h
    exact ⟨rfl, fun _ => rfl⟩

/-- A path that leads to a node ends where it ended when a node is put in a free place. -/
theorem walk_false_put_of_free {links : Nat} {at_ q : Place} {rest : List String}
    (ends : fs.walk true links at_ rest = .ok (.node q n)) (free : fs.get? x = none)
    (away : SameAway x fs fs') :
    fs'.walk false links at_ rest = fs.walk false links at_ rest := by
  have stays {a : Place} {m : Node} (found : fs.get? a = some m) : fs'.get? a = some m := by
    refine (away.same a ?_).trans found
    rintro rfl
    cases free.symm.trans found
  fun_induction walk fs true links at_ rest with
  | case1 links at_ m found => rw [walk, walk, found, stays found]
  | case3 links at_ rest mode folder ih =>
    rw [walk_here folder, walk_here (stays folder)]
    exact ih ends
  | case4 links at_ rest mode folder _ ih =>
    rw [walk_up folder, walk_up (stays folder)]
    exact ih ends
  | case7 links at_ piece rest mode folder here up target found last => simp at last
  | case9 at_ piece rest mode folder here up target found on links ih =>
    cases rest with
    | nil =>
      rw [walk_last folder here up found, walk_last (stays folder) here up (stays found)]
    | cons next rest =>
      rw [walk_follow folder here up found rfl,
        walk_follow (stays folder) here up (stays found) rfl]
      exact ih ends
  | case10 links at_ piece rest mode folder here up m other found ih =>
    have no_link : ∀ target, m ≠ .link target := fun target e => other target e
    rw [walk_enter folder here up found no_link,
      walk_enter (stays folder) here up (stays found) no_link]
    exact ih ends
  | _ => cases ends

theorem target?_false_put_of_free (leads : fs.node? p = .ok (place, n)) (free : fs.get? x = none)
    (away : SameAway x fs fs') : fs'.target? false p = fs.target? false p := by
  have ends := target?_of_node? leads
  have follows := target?_of_ok ends
  rw [follows] at ends
  rw [follows, follows, away.home]
  exact walk_false_put_of_free ends free away

/-- The permission bits of the file that takes the place of another. -/
def replaceMode (fs : FileSystem) (p : Path) : Nat :=
  match fs.node? p with
  | .ok (_, .file _ mode _) => mode
  | _ => besideMode

/-- The new file, made ready at a place beside the old one. -/
def made (fs : FileSystem) (x : Place) (p : Path) (bytes : ByteArray) : FileSystem :=
  { fs.put x (.file fs.next (fs.replaceMode p) bytes) with next := fs.next + 1 }

theorem sameAway_made (fs : FileSystem) (x : Place) (p : Path) (bytes : ByteArray) :
    SameAway x fs (fs.made x p bytes) where
  home := rfl
  same _ away := get?_put_of_ne fs _ away

theorem fill_create (fs : FileSystem) (x : Place) (bytes : ByteArray) :
    fill x bytes (fs.create x) =
      .ok { fs.put x (.file fs.next besideMode bytes) with next := fs.next + 1 } := by
  have there : (fs.create x).get? x = some (.file fs.next besideMode .empty) :=
    get?_put_self fs x _
  have again := put_put fs x (.file fs.next besideMode .empty) (.file fs.next besideMode bytes)
  simp only [FileSystem.put] at again
  rw [fill, there]
  simp only [create, FileSystem.put, Except.ok.injEq, FileSystem.mk.injEq, and_true]
  exact congrArg FileSystem.nodes again

theorem permit_filled (leads : fs.node? p = .ok (place, n)) (free : fs.get? x = none) :
    permit x p { fs.put x (.file fs.next besideMode bytes) with next := fs.next + 1 } =
      .ok (fs.made x p bytes) := by
  have there : FileSystem.get? { fs.put x (.file fs.next besideMode bytes) with
      next := fs.next + 1 } x = some (.file fs.next besideMode bytes) :=
    get?_put_self fs x _
  rw [permit, there, node?_put_of_free leads free, made, replaceMode, leads]
  cases n with
  | file number mode old =>
    have again := put_put fs x (.file fs.next besideMode bytes) (.file fs.next mode bytes)
    simp only [FileSystem.put] at again ⊢
    simp only [Except.ok.injEq, FileSystem.mk.injEq, and_true]
    exact congrArg FileSystem.nodes again
  | _ => rfl

/-- Where nothing is refused, the new file is made ready. -/
theorem takeSteps_ready (leads : fs.node? p = .ok (place, n)) (free : fs.get? x = none) :
    takeSteps noFaults (fs.create x) (readySteps x p bytes) = (fs.made x p bytes, .ok ()) := by
  simp only [readySteps, takeSteps, noFaults, fill_create, permit_filled leads free]

/-- To give the new file the name of the old one is to replace the old one. -/
theorem renameTo_made (leads : fs.node? p = .ok (place, n)) (free : fs.get? x = none)
    (stands : fs.isFolder (folderOf p) = true) (bytes : ByteArray) :
    renameTo x p (fs.made x p bytes) = fs.replace p bytes := by
  have there : (fs.made x p bytes).get? x = some (.file fs.next (fs.replaceMode p) bytes) :=
    get?_put_self fs x _
  have gone (t : Place) :
      ((fs.made x p bytes).erase x).put t (.file fs.next (fs.replaceMode p) bytes) =
        { fs.put t (.file fs.next (fs.replaceMode p) bytes) with next := fs.next + 1 } := by
    have back : (fs.put x (.file fs.next (fs.replaceMode p) bytes)).erase x = fs :=
      (erase_put fs x _).trans (erase_of_free free)
    have nodes : ((fs.made x p bytes).erase x).nodes = fs.nodes := by
      have same := congrArg FileSystem.nodes back
      exact same
    rw [FileSystem.put, nodes]
    rfl
  unfold renameTo replace
  rw [there, target?_false_put_of_free leads free (sameAway_made fs x p bytes), stands]
  rcases fs.target? false p with e | ⟨q, m⟩ | q
  · rfl
  · cases m with
    | folder mode => rfl
    | _ => exact congrArg Except.ok (gone q)
  · exact congrArg Except.ok (gone q)

/-- Steps that all succeed do so where nothing is refused. -/
theorem takeSteps_of_ok {steps : List (ReplaceStep × (FileSystem → Except IoError FileSystem))}
    (h : takeSteps faults fs steps = (fs', .ok ())) :
    takeSteps noFaults fs steps = (fs', .ok ()) := by
  induction steps generalizing fs with
  | nil => exact h
  | cons s rest ih =>
    obtain ⟨step, act⟩ := s
    rw [takeSteps] at h ⊢
    cases refused : faults step with
    | some e =>
      rw [refused] at h
      cases h
    | none =>
      cases acted : act fs with
      | error e =>
        rw [refused, acted] at h
        cases h
      | ok fs₁ =>
        rw [refused, acted] at h
        exact ih h

/-- The node at the end of a path is a folder. -/
theorem isFolder_of_node? {mode : Nat} (leads : fs.node? p = .ok (folder, .folder mode)) :
    fs.isFolder p = true := by
  rw [isFolder, leads]

/-- A replacement that succeeds, whatever else might have been refused, has replaced the file. -/
theorem replaceStaged_ok (leads : fs.node? p = .ok (place, n))
    (h : replaceStaged faults name fs p bytes = (fs', .ok ())) :
    fs.replace p bytes = .ok fs' := by
  unfold replaceStaged at h
  split at h
  · rename_i folder mode stands
    split at h
    · cases h
    · split at h
      · cases h
      · rename_i taken
        have free : fs.get? (name :: folder) = none := Option.not_isSome_iff_eq_none.1 taken
        split at h
        · cases h
        · rename_i fs₁ ready
          cases (takeSteps_ready leads free).symm.trans (takeSteps_of_ok ready)
          split at h
          · cases h
          · rename_i fs₂ renamed
            cases h
            have moved := takeSteps_of_ok renamed
            rw [← renameTo_made leads free (isFolder_of_node? stands)]
            simp only [takeSteps, noFaults] at moved
            split at moved
            · cases moved
            · rename_i acted
              cases moved
              exact acted
  · cases h

/-- Where the folder does not stand, there is nothing to replace. -/
theorem replaceStaged_of_no_folder (absent : fs.isFolder (folderOf p) = false)
    (faults : Faults) (name : String) (bytes : ByteArray) :
    replaceStaged faults name fs p bytes = (fs, .error .notFound) ∧
      fs.replace p bytes = .error .notFound := by
  constructor
  · unfold replaceStaged
    split
    · rename_i stands
      rw [isFolder_of_node? stands] at absent
      cases absent
    · rfl
  · unfold replace
    rw [absent]

/-- Where nothing is refused, and no node has the name of the new file, the steps replace the file,
or fail as its replacement does. -/
theorem replaceStaged_untroubled (leads : fs.node? p = .ok (place, n))
    (free : ∀ folder m, fs.node? (folderOf p) = .ok (folder, m) → fs.get? (name :: folder) = none)
    (bytes : ByteArray) :
    (∃ fs', replaceStaged noFaults name fs p bytes = (fs', .ok ()) ∧
      fs.replace p bytes = .ok fs') ∨
    ∃ fs' e, replaceStaged noFaults name fs p bytes = (fs', .error e) ∧
      fs.replace p bytes = .error e := by
  by_cases stands : ∃ folder mode, fs.node? (folderOf p) = .ok (folder, .folder mode)
  · obtain ⟨folder, mode, stands⟩ := stands
    have absent := free folder _ stands
    have renamed := renameTo_made leads absent (isFolder_of_node? stands) bytes
    have taken : (fs.get? (name :: folder)).isSome = false := by rw [absent]; rfl
    unfold replaceStaged
    have created : noFaults .create = none := rfl
    rw [stands]
    dsimp only
    rw [created]
    dsimp only
    rw [taken, if_neg Bool.false_ne_true, takeSteps_ready leads absent]
    dsimp only
    rw [takeSteps, renamed]
    cases fs.replace p bytes with
    | ok fs' => exact .inl ⟨fs', rfl, rfl⟩
    | error e => exact .inr ⟨_, e, rfl, rfl⟩
  · have absent : fs.isFolder (folderOf p) = false := by
      unfold isFolder
      split
      · rename_i folder mode leads'
        exact absurd ⟨folder, mode, leads'⟩ stands
      · rfl
    obtain ⟨staged, replaced⟩ := replaceStaged_of_no_folder absent noFaults name bytes
    exact .inr ⟨fs, .notFound, staged, replaced⟩

end CoreTrial.FileSystem
