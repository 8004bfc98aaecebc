import CoreTrial.Proofs.FileSystem.Flat
import CoreTrial.Proofs.FileSystem.Frame

/-!
# The file of a path

A path leads to a file of some number. It goes on to lead to that file, with the same bytes, when
another file is created, written to, emptied or replaced; a file that is replaced gets a number that
no other file has.
-/

set_option autoImplicit false

namespace CoreTrial.FileSystem

/-- Every file has a number that has been given out. -/
def Numbered (fs : FileSystem) : Prop :=
  ∀ place number mode bytes, fs.get? place = some (.file number mode bytes) → number < fs.next

/-- A path leads to the file of a number, which holds these bytes. -/
def Leads (fs : FileSystem) (p : Path) (number : Nat) (bytes : ByteArray) : Prop :=
  ∃ place mode, fs.node? p = .ok (place, .file number mode bytes)

variable {fs fs' : FileSystem} {links number : Nat} {at_ place x : Place} {rest : List String}
  {p : Path} {n : Node} {bytes : ByteArray}

theorem Leads.readBytes (leads : fs.Leads p number bytes) : fs.readBytes p = .ok bytes := by
  obtain ⟨place, mode, leads⟩ := leads
  rw [FileSystem.readBytes, leads]

/-- A path leads to one file at most. -/
theorem Leads.unique {number' : Nat} {bytes' : ByteArray} (leads : fs.Leads p number bytes)
    (leads' : fs.Leads p number' bytes') : number = number' ∧ bytes = bytes' := by
  obtain ⟨place, mode, leads⟩ := leads
  obtain ⟨place', mode', leads'⟩ := leads'
  rw [leads] at leads'
  cases leads'
  exact ⟨rfl, rfl⟩

theorem Numbered.lt_next (numbered : fs.Numbered) (leads : fs.Leads p number bytes) :
    number < fs.next := by
  obtain ⟨place, mode, leads⟩ := leads
  exact numbered place number mode bytes (get?_of_node? leads)

/-- A node whose number has been given out can be put anywhere, and more numbers given out. -/
theorem Numbered.put {next : Nat} (numbered : fs.Numbered) (more : fs.next ≤ next)
    (given : ∀ number mode bytes, n = .file number mode bytes → number < next) :
    Numbered { fs.put x n with next := next } := by
  intro place number mode bytes found
  by_cases same : place = x
  · subst same
    have new := (get?_put_self fs place n).symm.trans found
    exact given number mode bytes (Option.some.inj new)
  · have old := (get?_put_of_ne fs n same).symm.trans found
    exact Nat.lt_of_lt_of_le (numbered place number mode bytes old) more

theorem numbered_bare : bare.Numbered := by
  intro place number mode bytes found
  obtain ⟨n, there, file⟩ := Option.map_eq_some_iff.1 found
  have root : n ∈ bare.nodes := List.mem_of_find?_eq_some there
  rw [List.mem_singleton.1 root] at file
  cases file

theorem Numbered.truncate (numbered : fs.Numbered) (number : Nat) :
    (fs.truncate number).Numbered := by
  intro place k mode bytes found
  rw [get?_truncate] at found
  obtain ⟨n, there, made⟩ := Option.map_eq_some_iff.1 found
  cases n with
  | file k' mode' old =>
    cases made
    exact numbered place k mode old there
  | _ => cases made

/-- When a file is emptied, no path leads elsewhere, and other files stay as they are. -/
theorem Leads.truncate (leads : fs.Leads p number bytes) (k : Nat) :
    (fs.truncate k).Leads p number (if number = k then .empty else bytes) := by
  obtain ⟨place, mode, leads⟩ := leads
  exact ⟨place, mode, node?_truncate leads k⟩

/-- A path to a free place leads to what is put there, unless it is a link. -/
theorem walk_put_of_free {follow : Bool} (ends : fs.walk follow links at_ rest = .ok (.free x))
    (same : ∀ a, a ≠ x → fs'.get? a = fs.get? a) (new : fs'.get? x = some n)
    (no_link : ∀ target, n ≠ .link target) :
    fs'.walk follow links at_ rest = .ok (.node x n) := by
  have free : fs.get? x = none := get?_of_walk ends
  have stays {a : Place} {n : Node} (found : fs.get? a = some n) : fs'.get? a = some n := by
    refine (same a ?_).trans found
    rintro rfl
    cases free.symm.trans found
  fun_induction walk fs follow links at_ rest with
  | case3 links at_ rest bits folder ih =>
    rw [walk_here (stays folder)]
    exact ih ends
  | case4 links at_ rest bits folder _ ih =>
    rw [walk_up (stays folder)]
    exact ih ends
  | case5 links at_ piece rest bits folder here up found last =>
    cases ends
    rw [List.isEmpty_iff.1 last, walk_enter (stays folder) here up new no_link, walk, new]
  | case9 at_ piece rest bits folder here up target found on links ih =>
    rw [walk_follow (stays folder) here up (stays found) (by simpa using on)]
    exact ih ends
  | case10 links at_ piece rest bits folder here up n away found ih =>
    rw [walk_enter (stays folder) here up (stays found) fun target e => away target e]
    exact ih ends
  | _ => cases ends

/-- Opening gives what is there, or a new file in a free place. -/
theorem openToWrite_eq_ok (opened : fs.openToWrite p = .ok (fs', place, n)) :
    fs'.node? p = .ok (place, n) ∧ (fs' = fs ∨ fs.get? place = none ∧
      n = .file fs.next newFileMode .empty ∧
        fs' = { fs.put place n with next := fs.next + 1 }) := by
  unfold openToWrite at opened
  split at opened
  · rename_i there m ends
    have leads : fs.node? p = .ok (there, m) := by rw [node?, ends]
    split at opened
    · cases opened
    · cases opened
    · cases opened
      exact ⟨leads, .inl rfl⟩
  · rename_i there ends
    cases opened
    refine ⟨?_, .inr ⟨?_, rfl, rfl⟩⟩
    · have follows := target?_of_ok ends
      rw [follows] at ends
      let new : Node := .file fs.next newFileMode .empty
      let fs' : FileSystem := { fs.put place new with next := fs.next + 1 }
      have created :
          fs'.walk true linkLimit (fs.start p).1 (fs.start p).2 = .ok (.node place new) :=
        walk_put_of_free ends (fun a other => get?_put_of_ne fs new other)
          (get?_put_self fs place new) fun _ => Node.noConfusion
      have leads : fs'.target? true p = .ok (.node place new) := (follows fs' true).trans created
      rw [node?, leads]
    · rw [target?_of_ok ends] at ends
      exact get?_of_walk ends
  · split at opened <;> cases opened

/-- A file that is there is opened as it is. -/
theorem openToWrite_of_node? {mode : Nat}
    (leads : fs.node? p = .ok (place, .file number mode bytes)) :
    fs.openToWrite p = .ok (fs, place, .file number mode bytes) := by
  rw [FileSystem.openToWrite, target?_of_node? leads]

theorem Numbered.openToWrite (numbered : fs.Numbered)
    (opened : fs.openToWrite p = .ok (fs', place, n)) : fs'.Numbered := by
  obtain ⟨-, rfl | ⟨-, rfl, rfl⟩⟩ := openToWrite_eq_ok opened
  · exact numbered
  · refine numbered.put (Nat.le_succ fs.next) fun number mode bytes same => ?_
    cases same
    exact Nat.lt_succ_self fs.next

/-- Opening a file leaves all others as they are. -/
theorem Leads.openToWrite {other : Path} (leads : fs.Leads other number bytes)
    (opened : fs.openToWrite p = .ok (fs', place, n)) : fs'.Leads other number bytes := by
  obtain ⟨-, rfl | ⟨free, -, rfl⟩⟩ := openToWrite_eq_ok opened
  · exact leads
  · obtain ⟨q, mode, leads⟩ := leads
    exact ⟨q, mode, node?_put_of_free leads free n (fs.next + 1)⟩

/-- Writing to a file leaves all others as they are. -/
theorem Leads.put_file {k mode : Nat} {old more : ByteArray} (leads : fs.Leads p number bytes)
    (file : fs.get? x = some (.file k mode old)) (apart : number ≠ k) :
    (fs.put x (.file k mode more)).Leads p number bytes := by
  obtain ⟨q, bits, leads⟩ := leads
  have away : q ≠ x := by
    rintro rfl
    cases (get?_of_node? leads).symm.trans file
    exact apart rfl
  have there : (fs.put x (.file k mode more)).node? p = _ := node?_put_of_file leads file
  rw [if_neg away] at there
  exact ⟨q, bits, there⟩

theorem Numbered.replace (numbered : fs.Numbered) (replaced : fs.replace p bytes = .ok fs') :
    fs'.Numbered := by
  obtain ⟨t, bits, -, -, result⟩ := replace_eq_ok replaced
  cases replaced.symm.trans (result bytes)
  refine numbered.put (Nat.le_succ fs.next) fun number mode bytes same => ?_
  cases same
  exact Nat.lt_succ_self fs.next

/-- A file that is replaced gets a new number. -/
theorem Leads.replace {old : ByteArray} (leads : fs.Leads p number old)
    (replaced : fs.replace p bytes = .ok fs') : fs'.Leads p fs.next bytes := by
  obtain ⟨place, mode, leads⟩ := leads
  exact node?_of_replace (target?_of_node? leads) nofun nofun replaced

/-- Replacing a file leaves all others as they are. -/
theorem Leads.replace_other {other : Path} {k : Nat} {old more : ByteArray}
    (leads : fs.Leads p number bytes) (source : fs.Leads other k old) (apart : number ≠ k)
    (replaced : fs.replace other more = .ok fs') : fs'.Leads p number bytes := by
  obtain ⟨q, mode, leads⟩ := leads
  obtain ⟨f, bits, source⟩ := source
  have away : q ≠ f := by
    rintro rfl
    cases (get?_of_node? leads).symm.trans (get?_of_node? source)
    exact apart rfl
  exact ⟨q, mode, node?_replace leads source nofun nofun nofun away replaced⟩

end CoreTrial.FileSystem
