import CoreTrial.Proofs.FileSystem.Staging
import CoreTrial.Proofs.Patch.Repetition

/-!
# A patch is made as a whole or not at all

A patch writes its file as a whole, by a replacement. `applyWith` leaves open how the replacement is
made: in one step, or step by step with an operating system that can refuse any of the steps. Where
it is `Atomic`, the patch is `AllOrNothing`: a patch that fails has changed nothing, and reports
what is wrong with the entries, or else what a check of the file reports, before it tries to write.
-/

set_option autoImplicit false

namespace CoreTrial.Patch

open FileSystem

/-- A way to replace files of a file system. It tells what has become of the file system, also where
it fails. -/
abbrev Replacing := Path → ByteArray → FileSystem × Except IoError Unit

/-- A replacement that fails has changed nothing, and one that succeeds has replaced the file. -/
structure Atomic (fs : FileSystem) (replacing : Replacing) : Prop where
  failed : ∀ {p bytes fs' e}, replacing p bytes = (fs', .error e) →
    fs'.home = fs.home ∧ ∀ place, fs'.get? place = fs.get? place
  done : ∀ {p bytes fs' place n}, fs.node? p = .ok (place, n) →
    replacing p bytes = (fs', .ok ()) → fs.replace p bytes = .ok fs'

/-- Writes entries into the region of a file, which is replaced in this way. -/
def applyWith (replacing : Replacing) (fs : FileSystem) (t : PatchTarget) (entries : List String) :
    FileSystem × Except PatchError PatchOutcome :=
  match validate entries t.endMarker with
  | .error e => (fs, .error e)
  | .ok () =>
    match fs.readText t.path with
    | .error e => (fs, .error (.read t.path e))
    | .ok content =>
      match parseRegion content t.startMarker t.endMarker t.path with
      | .error e => (fs, .error e)
      | .ok m =>
        let updated := Region.splice m entries
        if updated = content then (fs, .ok ⟨false, entries.length, 0⟩)
        else match replacing t.path updated.toUTF8 with
          | (fs', .error e) => (fs', .error (.write t.path e))
          | (fs', .ok ()) => (fs', .ok ⟨true, entries.length, updated.utf8ByteSize⟩)

/-- A patch by a replacement that is made step by step, through a new file of this name. -/
def applyStaged (faults : Faults) (name : String) (fs : FileSystem) (t : PatchTarget)
    (entries : List String) : FileSystem × Except PatchError PatchOutcome :=
  applyWith (replaceStaged faults name fs) fs t entries

/-- What has become of a file system, also where a patch has failed. -/
def landed (fs : FileSystem) :
    Except PatchError (FileSystem × PatchOutcome) → FileSystem × Except PatchError PatchOutcome
  | .ok (fs', o) => (fs', .ok o)
  | .error e => (fs, .error e)

/-- What a patch has done, and what it has reported. -/
structure AllOrNothing (fs : FileSystem) (t : PatchTarget) (entries : List String)
    (r : FileSystem × Except PatchError PatchOutcome) : Prop where
  /-- A patch that fails has changed nothing. -/
  failed : ∀ e, r.2 = .error e → r.1.home = fs.home ∧ ∀ place, r.1.get? place = fs.get? place
  /-- A patch that succeeds leaves the old text with the entries in the region that a check reports.
  It has changed the file at the end of the path at most, and none where the text is the same. -/
  done : ∀ o, r.2 = .ok o → ∃ content m, fs.readText t.path = .ok content ∧ check fs t = .ok m ∧
    r.1.readText t.path = .ok (Region.splice m entries) ∧
    (o.changed = true ↔ Region.splice m entries ≠ content) ∧
    o.bytesWritten = (if o.changed then (Region.splice m entries).utf8ByteSize else 0) ∧
    o.entries = entries.length ∧ (o.changed = false → r.1 = fs) ∧
    (o.changed = true → ∃ stop, fs.target? false t.path = .ok stop ∧ SameAway stop.place fs r.1)
  /-- Entries that are unfit are refused whatever the file holds, and nothing else is reported as
  entries that hold the end marker. -/
  unfit : ∀ e, validate entries t.endMarker = .error e → r.2 = .error e
  unfit_iff : (∃ marker entry, r.2 = .error (.endMarkerInEntries marker entry)) ↔
    ∃ e, validate entries t.endMarker = .error e
  /-- Otherwise, what is wrong with the file is what a check reports. -/
  unchecked : ∀ e, validate entries t.endMarker = .ok () → check fs t = .error e → r.2 = .error e
  /-- A patch with nothing wrong can fail only as it writes. -/
  unwritten : ∀ m, validate entries t.endMarker = .ok () → check fs t = .ok m →
    (∃ o, r.2 = .ok o) ∨ ∃ cause, r.2 = .error (.write t.path cause)

variable {fs fs' : FileSystem} {t : PatchTarget} {entries : List String} {content : String}
  {m : MarkedText} {e : PatchError} {replacing : Replacing}

theorem validate_error (h : validate entries t.endMarker = .error e) :
    ∃ marker entry, e = .endMarkerInEntries marker entry := by
  unfold validate at h
  split at h
  · cases h
  · cases h
    exact ⟨_, _, rfl⟩

/-- A check does not look at the entries. -/
theorem check_error (h : check fs t = .error e) (marker : String) (entry : Option Nat) :
    e ≠ .endMarkerInEntries marker entry := by
  rintro rfl
  unfold check parseRegion at h
  split at h
  · cases h
  · split at h <;> cases h

theorem check_of_readText (read : fs.readText t.path = .ok content) :
    check fs t = parseRegion content t.startMarker t.endMarker t.path := by
  rw [check, read]

/-- A text that can be read stands at the end of a path. -/
theorem node?_of_readText (read : fs.readText t.path = .ok content) :
    ∃ place n, fs.node? t.path = .ok (place, n) := by
  obtain ⟨place, n, ends, -⟩ := target?_of_readBytes (readText_eq_ok_iff.1 read)
  exact ⟨place, n, by rw [node?, ends]⟩

/-- All that a patch can come to. -/
theorem applyWith_cases (replacing : Replacing) (fs : FileSystem) (t : PatchTarget)
    (entries : List String) :
    (∃ e, validate entries t.endMarker = .error e ∧
      applyWith replacing fs t entries = (fs, .error e)) ∨
    (validate entries t.endMarker = .ok () ∧
      ((∃ e, check fs t = .error e ∧ applyWith replacing fs t entries = (fs, .error e)) ∨
      ∃ content m, fs.readText t.path = .ok content ∧ check fs t = .ok m ∧
        ((Region.splice m entries = content ∧
            applyWith replacing fs t entries = (fs, .ok ⟨false, entries.length, 0⟩)) ∨
          (Region.splice m entries ≠ content ∧
            ((∃ fs' e, replacing t.path (Region.splice m entries).toUTF8 = (fs', .error e) ∧
                applyWith replacing fs t entries = (fs', .error (.write t.path e))) ∨
              ∃ fs', replacing t.path (Region.splice m entries).toUTF8 = (fs', .ok ()) ∧
                applyWith replacing fs t entries =
                  (fs', .ok
                    ⟨true, entries.length, (Region.splice m entries).utf8ByteSize⟩)))))) := by
  unfold applyWith
  cases valid : validate entries t.endMarker with
  | error e => exact .inl ⟨e, rfl, rfl⟩
  | ok u =>
    refine .inr ⟨rfl, ?_⟩
    cases read : fs.readText t.path with
    | error e => exact .inl ⟨_, by rw [check, read], rfl⟩
    | ok content =>
      rw [check_of_readText read]
      cases parsed : parseRegion content t.startMarker t.endMarker t.path with
      | error e => exact .inl ⟨e, rfl, by simp only [parsed]⟩
      | ok m =>
        refine .inr ⟨content, m, rfl, rfl, ?_⟩
        simp only [parsed]
        by_cases same : Region.splice m entries = content
        · exact .inl ⟨same, if_pos same⟩
        · refine .inr ⟨same, ?_⟩
          rw [if_neg same]
          rcases replacing t.path (Region.splice m entries).toUTF8 with ⟨fs', e | u⟩
          · exact .inl ⟨fs', e, rfl, rfl⟩
          · exact .inr ⟨fs', rfl, rfl⟩

/-- A file that a patch has replaced is the one at the end of the path. -/
theorem sameAway_of_replace {bytes : ByteArray} (replaced : fs.replace t.path bytes = .ok fs') :
    ∃ stop, fs.target? false t.path = .ok stop ∧ SameAway stop.place fs fs' := by
  obtain ⟨stop, bits, last, -, result⟩ := replace_eq_ok replaced
  cases replaced.symm.trans (result bytes)
  exact ⟨stop, last, rfl, fun a away => get?_put_of_ne fs _ away⟩

/-- A patch of unfit entries. -/
theorem allOrNothing_of_unfit (unfit : validate entries t.endMarker = .error e) :
    AllOrNothing fs t entries (fs, .error e) where
  failed _ _ := ⟨rfl, fun _ => rfl⟩
  done _ h := nomatch h
  unfit _ h := by
    cases unfit.symm.trans h
    rfl
  unfit_iff := by
    obtain ⟨marker, entry, rfl⟩ := validate_error unfit
    exact ⟨fun _ => ⟨_, unfit⟩, fun _ => ⟨marker, entry, rfl⟩⟩
  unchecked _ fit := nomatch unfit.symm.trans fit
  unwritten _ fit := nomatch unfit.symm.trans fit

/-- A patch of a file in which a check finds something wrong. -/
theorem allOrNothing_of_check (fit : validate entries t.endMarker = .ok ())
    (wrong : check fs t = .error e) : AllOrNothing fs t entries (fs, .error e) where
  failed _ _ := ⟨rfl, fun _ => rfl⟩
  done _ h := nomatch h
  unfit _ unfit := nomatch fit.symm.trans unfit
  unfit_iff := by
    constructor
    · rintro ⟨marker, entry, same⟩
      exact absurd (Except.error.inj same) (check_error wrong marker entry)
    · rintro ⟨_, unfit⟩
      cases fit.symm.trans unfit
  unchecked _ _ wrong' := by
    cases wrong.symm.trans wrong'
    rfl
  unwritten _ _ checked := nomatch wrong.symm.trans checked

/-- A patch that cannot be written. -/
theorem allOrNothing_of_write {cause : IoError} (fit : validate entries t.endMarker = .ok ())
    (checked : check fs t = .ok m) (home : fs'.home = fs.home)
    (same : ∀ place, fs'.get? place = fs.get? place) :
    AllOrNothing fs t entries (fs', .error (.write t.path cause)) where
  failed _ _ := ⟨home, same⟩
  done _ h := nomatch h
  unfit _ unfit := nomatch fit.symm.trans unfit
  unfit_iff := by
    constructor
    · rintro ⟨marker, entry, other⟩
      cases other
    · rintro ⟨_, unfit⟩
      cases fit.symm.trans unfit
  unchecked _ _ wrong := nomatch checked.symm.trans wrong
  unwritten _ _ _ := .inr ⟨cause, rfl⟩

/-- A patch that succeeds. -/
theorem allOrNothing_of_ok {o : PatchOutcome} (fit : validate entries t.endMarker = .ok ())
    (read : fs.readText t.path = .ok content) (checked : check fs t = .ok m)
    (spliced : fs'.readText t.path = .ok (Region.splice m entries))
    (changed : o.changed = true ↔ Region.splice m entries ≠ content)
    (written : o.bytesWritten = if o.changed then (Region.splice m entries).utf8ByteSize else 0)
    (count : o.entries = entries.length) (same : o.changed = false → fs' = fs)
    (away : o.changed = true → ∃ stop, fs.target? false t.path = .ok stop ∧
      SameAway stop.place fs fs') : AllOrNothing fs t entries (fs', .ok o) where
  failed _ h := nomatch h
  done _ h := by
    cases h
    exact ⟨content, m, read, checked, spliced, changed, written, count, same, away⟩
  unfit _ unfit := nomatch fit.symm.trans unfit
  unfit_iff := by
    constructor
    · rintro ⟨marker, entry, other⟩
      cases other
    · rintro ⟨_, unfit⟩
      cases fit.symm.trans unfit
  unchecked _ _ wrong := nomatch checked.symm.trans wrong
  unwritten _ _ _ := .inl ⟨o, rfl⟩

/-- A patch is made as a whole or not at all, where its replacement is. -/
theorem allOrNothing_applyWith (atomic : Atomic fs replacing) (t : PatchTarget)
    (entries : List String) : AllOrNothing fs t entries (applyWith replacing fs t entries) := by
  obtain ⟨e, unfit, result⟩ | ⟨fit, ⟨e, wrong, result⟩ | ⟨content, m, read, checked, rest⟩⟩ :=
    applyWith_cases replacing fs t entries
  · rw [result]
    exact allOrNothing_of_unfit unfit
  · rw [result]
    exact allOrNothing_of_check fit wrong
  · obtain ⟨same, result⟩ | ⟨other, ⟨fs', cause, fails, result⟩ | ⟨fs', written, result⟩⟩ := rest
    · rw [result]
      exact allOrNothing_of_ok fit read checked (same ▸ read) (by simp [same]) rfl rfl
        (fun _ => rfl) nofun
    · rw [result]
      obtain ⟨home, same⟩ := atomic.failed fails
      exact allOrNothing_of_write fit checked home same
    · rw [result]
      obtain ⟨place, n, leads⟩ := node?_of_readText read
      have replaced := atomic.done leads written
      have spliced : fs'.readText t.path = .ok (Region.splice m entries) :=
        readText_eq_ok_iff.2 (readBytes_replace (readText_eq_ok_iff.1 read) replaced)
      exact allOrNothing_of_ok fit read checked spliced (by simp [other]) rfl rfl nofun
        fun _ => sameAway_of_replace replaced

/-- A replacement in one step. -/
def inOneStep (fs : FileSystem) : Replacing := fun p bytes =>
  match fs.replace p bytes with
  | .ok fs' => (fs', .ok ())
  | .error e => (fs, .error e)

theorem inOneStep_of_ok {p : Path} {bytes : ByteArray} (h : fs.replace p bytes = .ok fs') :
    inOneStep fs p bytes = (fs', .ok ()) := by
  unfold inOneStep
  rw [h]

theorem inOneStep_of_error {p : Path} {bytes : ByteArray} {e : IoError}
    (h : fs.replace p bytes = .error e) : inOneStep fs p bytes = (fs, .error e) := by
  unfold inOneStep
  rw [h]

theorem atomic_inOneStep (fs : FileSystem) : Atomic fs (inOneStep fs) where
  failed := by
    intro p bytes fs' e h
    unfold inOneStep at h
    split at h
    · cases h
    · cases h
      exact ⟨rfl, fun _ => rfl⟩
  done := by
    intro p bytes fs' place n _ h
    unfold inOneStep at h
    split at h
    · rename_i replaced
      cases h
      exact replaced
    · cases h

theorem atomic_replaceStaged (faults : Faults) (name : String) (fs : FileSystem) :
    Atomic fs (replaceStaged faults name fs) where
  failed := replaceStaged_error
  done := replaceStaged_ok

/-- A patch replaces its file in one step. -/
theorem landed_apply (fs : FileSystem) (t : PatchTarget) (entries : List String) :
    landed fs (apply fs t entries) = applyWith (inOneStep fs) fs t entries := by
  unfold apply applyWith inOneStep
  cases validate entries t.endMarker with
  | error e => rfl
  | ok u =>
    cases fs.readText t.path with
    | error e => rfl
    | ok content =>
      cases parsed : parseRegion content t.startMarker t.endMarker t.path with
      | error e => simp only [parsed, landed]
      | ok m =>
        simp only [parsed]
        by_cases same : Region.splice m entries = content
        · rw [if_pos same, if_pos same]
          rfl
        · rw [if_neg same, if_neg same]
          cases fs.replace t.path (Region.splice m entries).toUTF8 <;> rfl

/-- Where nothing is refused, and the name of the new file is free, a patch made step by step is the
patch that is made in one. -/
theorem applyStaged_untroubled {name : String}
    (free : ∀ folder n, fs.node? (folderOf t.path) = .ok (folder, n) →
      fs.get? (name :: folder) = none) :
    (applyStaged noFaults name fs t entries).2 = (landed fs (apply fs t entries)).2 ∧
      ∀ o, (applyStaged noFaults name fs t entries).2 = .ok o →
        (applyStaged noFaults name fs t entries).1 = (landed fs (apply fs t entries)).1 := by
  rw [landed_apply]
  unfold applyStaged applyWith
  cases validate entries t.endMarker with
  | error e => exact ⟨rfl, nofun⟩
  | ok u =>
    cases read : fs.readText t.path with
    | error e => exact ⟨rfl, nofun⟩
    | ok content =>
      dsimp only
      cases parseRegion content t.startMarker t.endMarker t.path with
      | error e => exact ⟨rfl, nofun⟩
      | ok m =>
        dsimp only
        by_cases same : Region.splice m entries = content
        · rw [if_pos same, if_pos same]
          exact ⟨rfl, fun _ _ => rfl⟩
        · rw [if_neg same, if_neg same]
          obtain ⟨place, n, leads⟩ := node?_of_readText read
          obtain ⟨fs', staged, replaced⟩ | ⟨fs', e, staged, replaced⟩ :=
            replaceStaged_untroubled leads free (Region.splice m entries).toUTF8
          · rw [staged, inOneStep_of_ok replaced]
            exact ⟨rfl, fun _ _ => rfl⟩
          · rw [staged, inOneStep_of_error replaced]
            exact ⟨rfl, nofun⟩

/-- **A patch is made as a whole or not at all.** This is so for the patch itself, and for the same
patch made step by step, through a new file of any name, whichever of its steps the operating system
refuses. Where it refuses none of them, and the name is free, both are the same. -/
theorem apply_all_or_nothing (fs : FileSystem) (t : PatchTarget) (entries : List String) :
    AllOrNothing fs t entries (landed fs (apply fs t entries)) ∧
      (∀ faults name, AllOrNothing fs t entries (applyStaged faults name fs t entries)) ∧
      ∀ name,
        (∀ folder n, fs.node? (folderOf t.path) = .ok (folder, n) →
          fs.get? (name :: folder) = none) →
        (applyStaged noFaults name fs t entries).2 = (landed fs (apply fs t entries)).2 ∧
          ∀ o, (applyStaged noFaults name fs t entries).2 = .ok o →
            (applyStaged noFaults name fs t entries).1 = (landed fs (apply fs t entries)).1 := by
  refine ⟨?_, ?_, fun name free => applyStaged_untroubled free⟩
  · rw [landed_apply]
    exact allOrNothing_applyWith (atomic_inOneStep fs) t entries
  · intro faults name
    exact allOrNothing_applyWith (atomic_replaceStaged faults name fs) t entries

/-- A patch that is made step by step, through a new file of a name that is free. -/
theorem staged_patch_oneFile :
    let fs := oneFile 0 "<<>>".toUTF8
    (∀ folder n, fs.node? (folderOf oneTarget.path) = .ok (folder, n) →
        fs.get? ("new" :: folder) = none) ∧
      ∃ fs' o, apply fs oneTarget ["x"] = .ok (fs', o) ∧
        applyStaged noFaults "new" fs oneTarget ["x"] = (fs', .ok o) := by
  intro fs
  have free : ∀ folder n, fs.node? (folderOf oneTarget.path) = .ok (folder, n) →
      fs.get? ("new" :: folder) = none := by
    intro folder n _
    simp [fs, oneFile, get?]
  have parsed : parseRegion "<<>>" oneTarget.startMarker oneTarget.endMarker oneTarget.path =
      .ok ⟨[], ['<', '<'], [], ['>', '>'], []⟩ := by rfl
  have fit : validate ["x"] oneTarget.endMarker = .ok () := by decide
  obtain ⟨o, patched⟩ := apply_oneFile 0 fit parsed (by decide)
  obtain ⟨-, -, untroubled⟩ := apply_all_or_nothing fs oneTarget ["x"]
  obtain ⟨reported, left⟩ := untroubled "new" free
  rw [patched] at reported left
  exact ⟨free, _, o, patched, Prod.ext (left o reported) reported⟩

end CoreTrial.Patch
