import CoreTrial.Proofs.FileSystem.Walk

/-!
# Replacing a file

A file is read where its path leads, through a link at the end, and replaced where its path ends,
so that a link at the end is what goes. Both are the same place afterwards.
-/

set_option autoImplicit false

namespace CoreTrial.FileSystem

variable {fs fs' : FileSystem} {links : Nat} {at_ : Place} {rest : List String} {t : Target}
  {p : Path} {bytes : ByteArray}

/-- The path to a file still leads to one when another file stands where it ends. -/
theorem walk_replaced {q : Place} {n : Node} {number bits : Nat}
    (ends : fs.walk true links at_ rest = .ok (.node q n))
    (no_folder : ∀ mode, n ≠ .folder mode) (no_link : ∀ target, n ≠ .link target)
    (last : fs.walk false links at_ rest = .ok t)
    (other : ∀ mode, fs.get? t.place ≠ some (.folder mode))
    (same : ∀ a, a ≠ t.place → fs'.get? a = fs.get? a)
    (new : fs'.get? t.place = some (.file number bits bytes)) :
    fs'.walk true links at_ rest = .ok (.node t.place (.file number bits bytes)) := by
  -- The folders on the path stay.
  have stays {a : Place} {mode : Nat} (folder : fs.get? a = some (.folder mode)) :
      fs'.get? a = some (.folder mode) := by
    rw [same a fun e => other mode (e ▸ folder), folder]
  fun_induction walk fs true links at_ rest with
  | case1 links at_ m found =>
    cases ends
    rw [walk, found] at last
    cases last
    rw [walk]
    simp only [Target.place] at new ⊢
    rw [new]
  | case3 links at_ rest mode folder ih =>
    rw [walk_here folder] at last
    rw [walk_here (stays folder)]
    exact ih ends last
  | case4 links at_ rest mode folder _ ih =>
    rw [walk_up folder] at last
    rw [walk_up (stays folder)]
    exact ih ends last
  | case7 links at_ piece rest mode folder here up target found last =>
    cases ends
    exact absurd rfl (no_link target)
  | case9 at_ piece rest mode folder here up target found on links ih =>
    cases rest with
    -- A link at the end makes way for the new file.
    | nil =>
      rw [walk_last folder here up found] at last
      cases last
      rw [walk_enter (stays folder) here up new (by simp), walk]
      simp only [Target.place] at new ⊢
      rw [new]
    -- A link on the way stays: what is replaced cannot be a link that the path has passed.
    | cons next rest =>
      have passed : t.place ≠ piece :: at_ := by
        refine place_ne_of_passed (q := q) folder here up found (List.cons_ne_nil next rest) ?_
          no_folder no_link last
        rw [walk_follow folder here up found rfl]
        exact ends
      rw [walk_follow folder here up found rfl] at last
      rw [walk_follow (stays folder) here up ((same _ passed.symm).trans found) rfl]
      exact ih ends last
  | case10 links at_ piece rest mode folder here up m away found ih =>
    rw [walk_enter folder here up found fun target e => away target e] at last
    have enters : fs'.walk true links at_ (piece :: rest) =
        fs'.walk true links (piece :: at_) rest := by
      by_cases stop : piece :: at_ = t.place
      · rw [← stop] at new
        exact walk_enter (stays folder) here up new (by simp)
      · exact walk_enter (stays folder) here up ((same _ stop).trans found)
          fun target e => away target e
    rw [enters]
    exact ih ends last
  | _ => cases ends

/-- Once a path has an end, there is nothing wrong with its text. -/
theorem target?_of_ok {follow : Bool} (h : fs.target? follow p = .ok t) (fs' : FileSystem)
    (follow' : Bool) :
    fs'.target? follow' p =
      fs'.walk follow' linkLimit (if p.isAbsolute then [] else fs'.home) (pieces p) := by
  unfold target? at h ⊢
  split at h
  · cases h
  · split at h
    · cases h
    · rename_i zero empty
      rw [if_neg zero, if_neg empty]

theorem target?_of_readBytes (h : fs.readBytes p = .ok bytes) :
    ∃ place n, fs.target? true p = .ok (.node place n) ∧ (∀ mode, n ≠ .folder mode) ∧
      ∀ target, n ≠ .link target := by
  unfold readBytes node? at h
  cases ends : fs.target? true p with
  | error e => simp [ends] at h
  | ok t =>
    cases t with
    | free place => simp [ends] at h
    | node place n =>
      refine ⟨place, n, rfl, ?_, ?_⟩ <;>
      · rintro _ rfl
        simp [ends] at h

theorem readText_eq_ok_iff {s : String} :
    fs.readText p = .ok s ↔ fs.readBytes p = .ok s.toUTF8 := by
  unfold readText
  cases fs.readBytes p with
  | error e => simp
  | ok bytes =>
    simp only [String.fromUTF8?, String.toUTF8_eq_toByteArray, Except.ok.injEq]
    by_cases valid : bytes.IsValidUTF8
    · rw [dif_pos valid]
      simp only [Except.ok.injEq, ← String.toByteArray_inj]
      rfl
    · rw [dif_neg valid]
      simp only [reduceCtorEq, false_iff]
      rintro rfl
      exact valid s.isValidUTF8

/-- A replacement depends on the new bytes only in that the new file holds them. -/
theorem replace_eq_ok (h : fs.replace p bytes = .ok fs') :
    ∃ t bits, fs.target? false p = .ok t ∧ (∀ mode, t.node? ≠ some (.folder mode)) ∧
      ∀ more, fs.replace p more =
        .ok { fs.put t.place (.file fs.next bits more) with next := fs.next + 1 } := by
  unfold replace at h ⊢
  dsimp only at h ⊢
  cases folder : fs.isFolder (folderOf p) with
  | false => simp [folder] at h
  | true =>
    cases last : fs.target? false p with
    | error e => simp [folder, last] at h
    | ok t =>
      cases t with
      | free place => exact ⟨_, _, rfl, nofun, fun more => rfl⟩
      | node place n =>
        cases n with
        | folder mode => simp [folder, last] at h
        | _ => exact ⟨_, _, rfl, nofun, fun more => rfl⟩

/-- What was put in the place of a file is where its path leads from then on. -/
theorem node?_of_replace {q : Place} {n : Node} (ends : fs.target? true p = .ok (.node q n))
    (no_folder : ∀ mode, n ≠ .folder mode) (no_link : ∀ target, n ≠ .link target)
    (replaced : fs.replace p bytes = .ok fs') :
    ∃ place bits, fs'.node? p = .ok (place, .file fs.next bits bytes) := by
  obtain ⟨t, bits, last, other, result⟩ := replace_eq_ok replaced
  have made := Except.ok.inj (replaced.symm.trans (result bytes))
  have home : fs'.home = fs.home := by rw [made]; rfl
  have new : fs'.get? t.place = some (.file fs.next bits bytes) := by
    rw [made]
    exact get?_put_self fs t.place (.file fs.next bits bytes)
  have same : ∀ a, a ≠ t.place → fs'.get? a = fs.get? a := fun a away => by
    rw [made]
    exact get?_put_of_ne fs (.file fs.next bits bytes) away
  have follows := target?_of_ok ends
  rw [follows] at ends last
  have leads : fs'.target? true p = .ok (.node t.place (.file fs.next bits bytes)) := by
    rw [follows, home]
    refine walk_replaced ends no_folder no_link last (fun mode => ?_) same new
    rw [get?_of_walk last]
    exact other mode
  exact ⟨t.place, bits, by rw [node?, leads]⟩

/-- What was put in the place of a file is read from then on. -/
theorem readBytes_replace {old : ByteArray} (read : fs.readBytes p = .ok old)
    (replaced : fs.replace p bytes = .ok fs') : fs'.readBytes p = .ok bytes := by
  obtain ⟨q, n, ends, no_folder, no_link⟩ := target?_of_readBytes read
  obtain ⟨place, bits, leads⟩ := node?_of_replace ends no_folder no_link replaced
  rw [readBytes, leads]

end CoreTrial.FileSystem
