import CoreTrial.Proofs.Region.Reinjection

/-!
# What a patch comes to

A patch of entries that are fit, in a file that can be read and cut, splices them into the region:
it changes nothing where the text is that already, and replaces the file otherwise.
-/

set_option autoImplicit false

namespace CoreTrial.Patch

variable {fs fs' : FileSystem} {t : PatchTarget} {entries : List String} {content : String}
  {m : MarkedText} {o : PatchOutcome}

theorem apply_of_parseRegion (valid : validate entries t.endMarker = .ok ())
    (read : fs.readText t.path = .ok content)
    (parsed : parseRegion content t.startMarker t.endMarker t.path = .ok m) :
    apply fs t entries =
      if Region.splice m entries = content then .ok (fs, ⟨false, entries.length, 0⟩)
      else match fs.replace t.path (Region.splice m entries).toUTF8 with
        | .error e => .error (.write t.path e)
        | .ok fs => .ok (fs, ⟨true, entries.length, (Region.splice m entries).utf8ByteSize⟩) := by
  by_cases same : Region.splice m entries = content
  · simp only [apply, valid, read, parsed, if_pos same]
  · cases replaced : fs.replace t.path (Region.splice m entries).toUTF8 <;>
      simp only [apply, valid, read, parsed, if_neg same, replaced]

theorem check_eq_ok_iff : check fs t = .ok m ↔
    ∃ content, fs.readText t.path = .ok content ∧
      parseRegion content t.startMarker t.endMarker t.path = .ok m := by
  unfold check
  cases fs.readText t.path with
  | error e => simp
  | ok content => simp

theorem splice_ne_empty (m : MarkedText) (entries : List String) :
    Region.splice m entries ≠ "" := by
  intro empty
  have none := congrArg String.toList empty
  simp [Region.splice, Region.render, Region.opening] at none

/-- A file whose region holds the entries already is left as it is. -/
theorem apply_of_splice_eq (valid : validate entries t.endMarker = .ok ())
    (read : fs.readText t.path = .ok content)
    (parsed : parseRegion content t.startMarker t.endMarker t.path = .ok m)
    (same : Region.splice m entries = content) :
    apply fs t entries = .ok (fs, ⟨false, entries.length, 0⟩) := by
  rw [apply_of_parseRegion valid read parsed, if_pos same]

/-- All that a patch that succeeds has found and done. -/
theorem apply_eq_ok (h : apply fs t entries = .ok (fs', o)) :
    validate entries t.endMarker = .ok () ∧ ∃ content m, fs.readText t.path = .ok content ∧
      parseRegion content t.startMarker t.endMarker t.path = .ok m ∧
      ((Region.splice m entries = content ∧ fs' = fs ∧ o = ⟨false, entries.length, 0⟩) ∨
        (Region.splice m entries ≠ content ∧
          fs.replace t.path (Region.splice m entries).toUTF8 = .ok fs' ∧
          o = ⟨true, entries.length, (Region.splice m entries).utf8ByteSize⟩)) := by
  unfold apply at h
  split at h
  · cases h
  · rename_i valid
    split at h
    · cases h
    · rename_i content read
      split at h
      · cases h
      · rename_i m parsed
        refine ⟨valid, content, m, read, parsed, ?_⟩
        dsimp only at h
        split at h
        · rename_i same
          cases h
          exact .inl ⟨same, rfl, rfl⟩
        · rename_i other
          split at h
          · cases h
          · rename_i replaced
            cases h
            exact .inr ⟨other, replaced, rfl⟩

/-- A text that is as it would be with some entries in its region has them there. -/
theorem body_of_splice_eq {start stop : String} {path : Path}
    (parsed : parseRegion content start stop path = .ok m)
    (same : Region.splice m entries = content) : m.body = Region.render entries := by
  have whole := MarkedText.content_of_parse (parseRegion_eq_ok_iff.1 parsed)
  rw [← same, Region.splice, String.toList_ofList, MarkedText.content,
    List.append_left_inj, List.append_right_inj] at whole
  exact whole.symm

end CoreTrial.Patch
