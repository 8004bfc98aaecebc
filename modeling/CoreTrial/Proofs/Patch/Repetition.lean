import CoreTrial.Proofs.FileSystem.Flat
import CoreTrial.Proofs.Patch.Outcome

/-!
# Patching time and again

A patch leaves a file that the next patch cuts at the same place, so all text around the region
stays what it was at first, and of the regions written only the last is left.
-/

set_option autoImplicit false

namespace CoreTrial.Patch

/-- Patches a file with one list of entries after the other. -/
def applyAll (t : PatchTarget) : FileSystem → List (List String) → Except PatchError FileSystem
  | fs, [] => .ok fs
  | fs, entries :: more =>
    match apply fs t entries with
    | .error e => .error e
    | .ok (fs, _) => applyAll t fs more

variable {fs fs' : FileSystem} {t : PatchTarget} {entries : List String}
  {rest : List (List String)} {content : String} {m : MarkedText} {o : PatchOutcome}

theorem applyAll_cons_of_ok (h : apply fs t entries = .ok (fs', o)) :
    applyAll t fs (entries :: rest) = applyAll t fs' rest := by
  rw [applyAll, h]

/-- What a patch leaves is read as the text with the entries in its region. -/
theorem readText_of_apply (read : fs.readText t.path = .ok content)
    (parsed : parseRegion content t.startMarker t.endMarker t.path = .ok m)
    (h : apply fs t entries = .ok (fs', o)) :
    fs'.readText t.path = .ok (Region.splice m entries) := by
  obtain ⟨-, content', m', read', parsed', outcome⟩ := apply_eq_ok h
  cases read.symm.trans read'
  cases parsed.symm.trans parsed'
  rcases outcome with ⟨same, rfl, -⟩ | ⟨-, replaced, -⟩
  · rw [same]
    exact read
  · exact FileSystem.readText_eq_ok_iff.2
      (FileSystem.readBytes_replace (FileSystem.readText_eq_ok_iff.1 read) replaced)

/-- The text with entries in its region is cut at the same place as before. -/
theorem parseRegion_splice (parsed : parseRegion content t.startMarker t.endMarker t.path = .ok m)
    (valid : validate entries t.endMarker = .ok ()) :
    parseRegion (Region.splice m entries) t.startMarker t.endMarker t.path =
      .ok { m with body := Region.render entries } := by
  rw [parseRegion_eq_ok_iff] at parsed ⊢
  exact (MarkedText.parse_withBody_iff parsed _).2
    (Region.accepts_iff.1 (validate_eq_ok_iff.1 valid))

/-- A file that can be read and cut is patched, unless it cannot be written. -/
theorem apply_ok_or_write (valid : validate entries t.endMarker = .ok ())
    (read : fs.readText t.path = .ok content)
    (parsed : parseRegion content t.startMarker t.endMarker t.path = .ok m) :
    (∃ fs' o, apply fs t entries = .ok (fs', o)) ∨
      ∃ cause, apply fs t entries = .error (.write t.path cause) := by
  rw [apply_of_parseRegion valid read parsed]
  split
  · exact .inl ⟨_, _, rfl⟩
  · cases fs.replace t.path (Region.splice m entries).toUTF8 with
    | ok fs' => exact .inl ⟨_, _, rfl⟩
    | error cause => exact .inr ⟨cause, rfl⟩

/-- A file that holds entries in its region can be patched with others, and then holds those. -/
theorem applyAll_of_readText
    (parsed : parseRegion content t.startMarker t.endMarker t.path = .ok m)
    (valid : validate entries t.endMarker = .ok ())
    (valid_rest : ∀ next ∈ rest, validate next t.endMarker = .ok ())
    (read : fs.readText t.path = .ok (Region.splice m entries))
    (writes : ∀ path cause, applyAll t fs rest ≠ .error (.write path cause)) :
    ∃ fs', applyAll t fs rest = .ok fs' ∧
      fs'.readText t.path = .ok (Region.splice m (rest.getLastD entries)) := by
  induction rest generalizing fs entries with
  | nil => exact ⟨fs, rfl, read⟩
  | cons next rest ih =>
    have cut := parseRegion_splice parsed valid
    rcases apply_ok_or_write (valid_rest next List.mem_cons_self) read cut with
      ⟨fs', o, patched⟩ | ⟨cause, fails⟩
    · have spliced := readText_of_apply read cut patched
      rw [applyAll_cons_of_ok patched] at writes ⊢
      rw [List.getLastD_cons]
      exact ih (valid_rest next List.mem_cons_self)
        (fun later mem => valid_rest later (List.mem_cons_of_mem next mem)) spliced writes
    · exact absurd (by rw [applyAll, fails]) (writes t.path cause)

/-- Where a sequence of patches has changed anything, the first change was a replacement. -/
theorem eq_or_replace_of_applyAll (h : applyAll t fs rest = .ok fs') :
    fs' = fs ∨ ∃ bytes fs₁, fs.replace t.path bytes = .ok fs₁ := by
  induction rest with
  | nil =>
    cases h
    exact .inl rfl
  | cons entries rest ih =>
    cases patched : apply fs t entries with
    | error e =>
      rw [applyAll, patched] at h
      cases h
    | ok p =>
      obtain ⟨-, content, m, -, -, ⟨-, same, -⟩ | ⟨-, replaced, -⟩⟩ := apply_eq_ok patched
      · rw [applyAll_cons_of_ok patched, same] at h
        exact ih h
      · exact .inr ⟨_, _, replaced⟩

/-- A patch of what the file holds already changes nothing. -/
theorem apply_again (parsed : parseRegion content t.startMarker t.endMarker t.path = .ok m)
    (valid : validate entries t.endMarker = .ok ())
    (read : fs.readText t.path = .ok (Region.splice m entries)) :
    apply fs t entries = .ok (fs, ⟨false, entries.length, 0⟩) :=
  apply_of_splice_eq valid read (parseRegion_splice parsed valid) rfl

/-- What is left by a patch can be read. -/
theorem exists_readText_of_apply (patched : apply fs t entries = .ok (fs', o)) :
    ∃ text, fs'.readText t.path = .ok text := by
  obtain ⟨-, content, m, read, parsed, -⟩ := apply_eq_ok patched
  exact ⟨_, readText_of_apply read parsed patched⟩

/-- A file that has been patched is not changed by the same patch, as long as it is read as it was
left. -/
theorem apply_of_apply {fs₁ : FileSystem} (patched : apply fs t entries = .ok (fs₁, o))
    (same : fs'.readText t.path = fs₁.readText t.path) :
    apply fs' t entries = .ok (fs', ⟨false, entries.length, 0⟩) := by
  obtain ⟨valid, content, m, read, parsed, -⟩ := apply_eq_ok patched
  exact apply_again parsed valid (same.trans (readText_of_apply read parsed patched))

/-- A patch succeeds where a sequence of patches has, if it writes what the last of them wrote. -/
theorem apply_of_applyAll (parsed : parseRegion content t.startMarker t.endMarker t.path = .ok m)
    (valid : validate entries t.endMarker = .ok ()) (read : fs.readText t.path = .ok content)
    (all : applyAll t fs rest = .ok fs')
    (spliced : fs'.readText t.path = .ok (Region.splice m entries)) :
    ∃ alone o, apply fs t entries = .ok (alone, o) := by
  rw [apply_of_parseRegion valid read parsed]
  rcases eq_or_replace_of_applyAll all with rfl | ⟨bytes, fs₁, replaced⟩
  · cases read.symm.trans spliced
    rw [if_pos rfl]
    exact ⟨_, _, rfl⟩
  · obtain ⟨_, _, -, -, result⟩ := FileSystem.replace_eq_ok replaced
    rw [result]
    split <;> exact ⟨_, _, rfl⟩

/-- **Injection forgets history.** Once a first patch has succeeded, patches with any lists that
pass the check succeed after it, as far as the file can be written. The file is then what a patch
with the last list alone would have made of it: the region holds that list, and what stands before
and after it is as at first. To patch with the last list once more changes nothing. -/
theorem applyAll_forgets {first : List String}
    (valid : ∀ entries ∈ first :: rest, validate entries t.endMarker = .ok ())
    (begins : ∃ fs₁ o, apply fs t first = .ok (fs₁, o))
    (writes : ∀ path cause, applyAll t fs (first :: rest) ≠ .error (.write path cause)) :
    let last := rest.getLastD first
    ∃ m fs' alone o, check fs t = .ok m ∧ applyAll t fs (first :: rest) = .ok fs' ∧
      apply fs t last = .ok (alone, o) ∧ fs'.readBytes t.path = alone.readBytes t.path ∧
      fs.readBytes t.path = .ok (String.ofList (m.lead ++ m.body ++ m.tail)).toUTF8 ∧
      fs'.readBytes t.path =
        .ok (String.ofList (m.lead ++ Region.render last ++ m.tail)).toUTF8 ∧
      check fs' t = .ok { m with body := Region.render last } ∧
      apply fs' t last = .ok (fs', ⟨false, last.length, 0⟩) := by
  obtain ⟨fs₁, o, begun⟩ := begins
  obtain ⟨fit, content, m, read, parsed, -⟩ := apply_eq_ok begun
  have whole := MarkedText.content_of_parse (parseRegion_eq_ok_iff.1 parsed)
  have valid_last : validate (rest.getLastD first) t.endMarker = .ok () :=
    valid _ List.getLastD_mem_cons
  rw [applyAll_cons_of_ok begun] at writes ⊢
  obtain ⟨fs', all, spliced⟩ := applyAll_of_readText parsed fit
    (fun next mem => valid next (List.mem_cons_of_mem first mem))
    (readText_of_apply read parsed begun) writes
  obtain ⟨alone, o', patched⟩ := apply_of_applyAll parsed valid_last read
    ((applyAll_cons_of_ok begun).trans all) spliced
  have same := readText_of_apply read parsed patched
  refine ⟨m, fs', alone, o', ?_, all, patched, ?_, ?_, ?_, ?_, ?_⟩
  · rw [check, read]
    exact parsed
  · rw [FileSystem.readText_eq_ok_iff.1 spliced, FileSystem.readText_eq_ok_iff.1 same]
  · rw [FileSystem.readText_eq_ok_iff.1 read, ← MarkedText.content, ← whole, String.ofList_toList]
  · exact FileSystem.readText_eq_ok_iff.1 spliced
  · rw [check, spliced]
    exact parseRegion_splice parsed valid_last
  · exact apply_again parsed valid_last spliced

/-- A folder with one file. -/
def oneFile (number : Nat) (bytes : ByteArray) : FileSystem where
  nodes := [(["rom"], .file number newFileMode bytes), ([], .folder newFolderMode)]
  home := []
  next := number + 1

/-- That file, and its markers. -/
def oneTarget : PatchTarget := ⟨⟨"rom"⟩, "<<", ">>"⟩

theorem flat_oneFile (number : Nat) (bytes : ByteArray) : (oneFile number bytes).Flat :=
  have put := FileSystem.flat_bare.put_file "rom" number newFileMode bytes
  ⟨put.home, put.root, put.files⟩

theorem isName_oneTarget : FileSystem.isName oneTarget.path "rom" = true := by
  decide +kernel

theorem readText_oneFile (number : Nat) (text : String) :
    (oneFile number text.toUTF8).readText oneTarget.path = .ok text :=
  FileSystem.readText_of_isName rfl rfl isName_oneTarget rfl

theorem replace_oneFile (number : Nat) (bytes more : ByteArray) :
    (oneFile number bytes).replace oneTarget.path more = .ok (oneFile (number + 1) more) := by
  have here : FileSystem.folderOf oneTarget.path = ⟨"."⟩ := by decide +kernel
  rw [(flat_oneFile number bytes).replace isName_oneTarget here rfl]
  simp [FileSystem.put, oneFile]

theorem apply_oneFile (number : Nat) (fit : validate entries oneTarget.endMarker = .ok ())
    (parsed : parseRegion content oneTarget.startMarker oneTarget.endMarker oneTarget.path = .ok m)
    (other : Region.splice m entries ≠ content) :
    ∃ o, apply (oneFile number content.toUTF8) oneTarget entries =
      .ok (oneFile (number + 1) (Region.splice m entries).toUTF8, o) := by
  rw [apply_of_parseRegion fit (readText_oneFile number content) parsed, if_neg other,
    replace_oneFile]
  exact ⟨_, rfl⟩

/-- Two patches in a row, and the second one alone. -/
theorem applyAll_forgets_oneFile :
    let fs := oneFile 0 "<<>>".toUTF8
    ∃ fs' alone o, applyAll oneTarget fs [["x", "y"], ["z"]] = .ok fs' ∧
      apply fs oneTarget ["z"] = .ok (alone, o) ∧
      fs'.readBytes oneTarget.path = alone.readBytes oneTarget.path ∧
      apply fs' oneTarget ["z"] = .ok (fs', ⟨false, 1, 0⟩) := by
  have parsed : parseRegion "<<>>" oneTarget.startMarker oneTarget.endMarker oneTarget.path =
      .ok ⟨[], ['<', '<'], [], ['>', '>'], []⟩ := by rfl
  have fit : validate ["x", "y"] oneTarget.endMarker = .ok () := by decide
  have fit' : validate ["z"] oneTarget.endMarker = .ok () := by decide
  obtain ⟨o, first⟩ := apply_oneFile 0 fit parsed (by decide)
  obtain ⟨o', second⟩ := apply_oneFile 1 fit' (parseRegion_splice parsed fit) (by decide)
  have writes : ∀ path cause, applyAll oneTarget (oneFile 0 "<<>>".toUTF8) [["x", "y"], ["z"]] ≠
      .error (.write path cause) := by
    rw [applyAll_cons_of_ok first, applyAll_cons_of_ok second]
    exact nofun
  obtain ⟨m', fs', alone, o'', -, all, patched, same, -, -, -, again⟩ := applyAll_forgets
    (List.forall_mem_cons.2 ⟨fit, List.forall_mem_singleton.2 fit'⟩) ⟨_, o, first⟩ writes
  exact ⟨fs', alone, o'', all, patched, same, again⟩

end CoreTrial.Patch
