import CoreTrial.Proofs.Patch.Outcome

/-!
# The halves of a patch

A patch reads its source and cuts it, and then writes what it has put together. What is done to the
source in between is lost, so that each half has to be known by itself.
-/

set_option autoImplicit false

namespace CoreTrial.Patch

/-- The first half of a patch: the source is read and cut, if the entries are fit. -/
def prepare (fs : FileSystem) (t : PatchTarget) (entries : List String) :
    Except PatchError (String × MarkedText) :=
  match validate entries t.endMarker with
  | .error e => .error e
  | .ok () =>
    match fs.readText t.path with
    | .error e => .error (.read t.path e)
    | .ok content =>
      match parseRegion content t.startMarker t.endMarker t.path with
      | .error e => .error e
      | .ok m => .ok (content, m)

/-- The second half: the text with the entries is written, if it is another one. -/
def commit (fs : FileSystem) (t : PatchTarget) (content : String) (m : MarkedText)
    (entries : List String) : Except PatchError (FileSystem × PatchOutcome) :=
  let updated := Region.splice m entries
  if updated = content then .ok (fs, ⟨false, entries.length, 0⟩)
  else match fs.replace t.path updated.toUTF8 with
    | .error e => .error (.write t.path e)
    | .ok fs => .ok (fs, ⟨true, entries.length, updated.utf8ByteSize⟩)

variable {fs fs' : FileSystem} {t : PatchTarget} {entries : List String} {content : String}
  {m : MarkedText} {o : PatchOutcome}

theorem prepare_eq_ok_iff : prepare fs t entries = .ok (content, m) ↔
    validate entries t.endMarker = .ok () ∧ fs.readText t.path = .ok content ∧
      parseRegion content t.startMarker t.endMarker t.path = .ok m := by
  unfold prepare
  cases validate entries t.endMarker with
  | error e => simp
  | ok u =>
    cases fs.readText t.path with
    | error e => simp
    | ok text =>
      cases parsed : parseRegion text t.startMarker t.endMarker t.path with
      | error e =>
        simp only [parsed, Except.ok.injEq, reduceCtorEq, true_and, false_iff]
        rintro ⟨rfl, cut⟩
        cases parsed.symm.trans cut
      | ok m' =>
        simp only [parsed, Except.ok.injEq, Prod.mk.injEq, true_and]
        constructor
        · rintro ⟨rfl, rfl⟩
          exact ⟨rfl, parsed⟩
        · rintro ⟨rfl, cut⟩
          exact ⟨rfl, Except.ok.inj (parsed.symm.trans cut)⟩

/-- A patch is its two halves, with nothing in between. -/
theorem apply_eq_prepare (fs : FileSystem) (t : PatchTarget) (entries : List String) :
    apply fs t entries =
      match prepare fs t entries with
      | .error e => .error e
      | .ok (content, m) => commit fs t content m entries := by
  cases valid : validate entries t.endMarker with
  | error e => simp only [apply, prepare, valid]
  | ok u =>
    cases read : fs.readText t.path with
    | error e => simp only [apply, prepare, valid, read]
    | ok content =>
      cases parsed : parseRegion content t.startMarker t.endMarker t.path with
      | error e => simp only [apply, prepare, valid, read, parsed]
      | ok m =>
        rw [apply_of_parseRegion valid read parsed, prepare_eq_ok_iff.2 ⟨valid, read, parsed⟩]
        unfold commit
        by_cases same : Region.splice m entries = content
        · simp only [if_pos same]
        · cases replaced : fs.replace t.path (Region.splice m entries).toUTF8 with
          | error e => simp only [if_neg same, replaced]
          | ok fs' => simp only [if_neg same, replaced]

theorem commit_of_replace (other : Region.splice m entries ≠ content)
    (replaced : fs.replace t.path (Region.splice m entries).toUTF8 = .ok fs') :
    commit fs t content m entries =
      .ok (fs', ⟨true, entries.length, (Region.splice m entries).utf8ByteSize⟩) := by
  simp only [commit, if_neg other, replaced]

theorem commit_eq_ok (h : commit fs t content m entries = .ok (fs', o)) :
    (Region.splice m entries = content ∧ fs' = fs) ∨
      fs.replace t.path (Region.splice m entries).toUTF8 = .ok fs' := by
  unfold commit at h
  dsimp only at h
  split at h
  · rename_i same
    cases h
    exact .inl ⟨same, rfl⟩
  · split at h
    · cases h
    · rename_i replaced
      cases h
      exact .inr replaced

end CoreTrial.Patch
