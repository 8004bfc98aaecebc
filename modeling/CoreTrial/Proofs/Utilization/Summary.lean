import CoreTrial.Gateway.Vivado
import CoreTrial.Proofs.FileSystem.Flat
import CoreTrial.Proofs.Number.Ceiling
import CoreTrial.Proofs.Utilization.Written

/-!
# What a table says is what is looked up

A report is preceded by a summary of its table, and an entry of the summary comes before all others.
`entriesFrom_summary` reads the summary back, one entry for each resource, whatever follows it;
`find?_rows` says which row of the table a resource has there.
-/

set_option autoImplicit false

namespace CoreTrial.Utilization

open Number

/-! ## The rows of a table -/

/-- The line begins with a label of `key`, and ends with the percentage `x`. -/
structure IsRow (key : String) (x : Binary64) (line : String) : Prop where
  named : ∃ label first, (label, key) ∈ rowLabels ∧ (cells line).head? = some first ∧
    label.toList <+: first
  valued : ∃ last, (cells line).getLast? = some last ∧ Binary64.read? (String.ofList last) = some x

/-- The first row of `key` in the table ends with the percentage `x`. -/
def FirstRow (table key : String) (x : Binary64) : Prop :=
  ∃ before line after, Text.lines table = before ++ line :: after ∧ IsRow key x line ∧
    ∀ l ∈ before, ∀ y, ¬ IsRow key y l

/-- `n` is the ceiling of `x` within 32 bits. It is 0 only where `x` is not positive. -/
structure CeilingOf (x : Binary64) (n : UInt32) : Prop where
  nan : x.isNaN = true → n = 0
  infinite : x.isInfinite = true → n.toNat = if x.isNegative then 0 else UInt32.size - 1
  finite : x.isFinite = true → n.toNat = min ⌈x.toRat⌉.toNat (UInt32.size - 1)
  zero : n = 0 → x.isNaN = true ∨ x.isNegative = true ∨ x.isZero = true

variable {key line table : String} {x : Binary64} {n : Nat}

/-- No label of one resource begins with a label of another one. -/
theorem eq_of_isPrefixOf_label :
    ∀ a ∈ rowLabels, ∀ b ∈ rowLabels, a.1.toList.isPrefixOf b.1.toList = true → a.2 = b.2 := by
  decide +kernel

theorem resourceOf?_eq_some_iff {cell : List Char} :
    resourceOf? cell = some key ↔ ∃ label, (label, key) ∈ rowLabels ∧ label.toList <+: cell := by
  unfold resourceOf?
  constructor
  · intro found
    obtain ⟨⟨label, key'⟩, first, same⟩ := Option.map_eq_some_iff.1 found
    cases same
    have begins := List.find?_some first
    exact ⟨label, List.mem_of_find?_eq_some first, List.isPrefixOf_iff_prefix.1 begins⟩
  · rintro ⟨label, mem, begins⟩
    cases found : rowLabels.find? fun l => l.1.toList.isPrefixOf cell with
    | none =>
      have all := List.find?_eq_none.1 found _ mem
      exact absurd (List.isPrefixOf_iff_prefix.2 begins) all
    | some l =>
      have mem' := List.mem_of_find?_eq_some found
      have begins' : l.1.toList.isPrefixOf cell = true := by simpa using List.find?_some found
      rw [List.isPrefixOf_iff_prefix] at begins'
      have same : l.2 = key := by
        rcases List.prefix_or_prefix_of_prefix begins' begins with h | h
        · exact eq_of_isPrefixOf_label _ mem' _ mem (List.isPrefixOf_iff_prefix.2 h)
        · exact (eq_of_isPrefixOf_label _ mem _ mem' (List.isPrefixOf_iff_prefix.2 h)).symm
      rw [Option.map_some, same]

theorem rowOf?_eq_some_iff :
    rowOf? line = some (key, n) ↔ ∃ x, IsRow key x line ∧ n = x.ceilWithin (UInt32.size - 1) := by
  unfold rowOf? percentCell?
  simp only [Option.bind_eq_bind, Option.bind_eq_some_iff, Option.map_eq_some_iff,
    resourceOf?_eq_some_iff]
  constructor
  · rintro ⟨first, head, _, ⟨label, mem, begins⟩, last, tail, _, ⟨x, read, rfl⟩, same⟩
    cases same
    exact ⟨x, ⟨⟨label, first, mem, head, begins⟩, ⟨last, tail, read⟩⟩, rfl⟩
  · rintro ⟨x, ⟨⟨label, first, mem, head, begins⟩, ⟨last, tail, read⟩⟩, rfl⟩
    exact ⟨first, head, key, ⟨label, mem, begins⟩, last, tail, _, ⟨x, read, rfl⟩, rfl⟩

/-- Of each resource, the rows that are collected keep what was found first. -/
theorem find?_collected (found rs : List (String × Nat)) (key : String) :
    (rs.foldl (fun found row => if found.any (·.1 == row.1) then found else found ++ [row])
        found).find? (·.1 == key) =
      (found.find? (·.1 == key)).or (rs.find? (·.1 == key)) := by
  induction rs generalizing found with
  | nil => simp
  | cons row rs ih =>
    rw [List.foldl_cons, ih]
    by_cases seen : found.any (·.1 == row.1) = true
    · rw [if_pos seen]
      by_cases same : row.1 = key
      · have there : (found.find? (·.1 == key)).isSome = true := by
          rw [List.find?_isSome]
          obtain ⟨r, mem, equal⟩ := List.any_eq_true.1 seen
          exact ⟨r, mem, by rwa [same] at equal⟩
        obtain ⟨r, hr⟩ := Option.isSome_iff_exists.1 there
        simp [hr]
      · rw [List.find?_cons_of_neg (by simpa using same)]
    · rw [if_neg seen, List.find?_append, Option.or_assoc]
      congr 1
      by_cases same : row.1 = key
      · simp [same]
      · rw [List.find?_cons_of_neg (by simpa using same),
          List.find?_cons_of_neg (by simpa using same)]
        simp

/-- A resource has in the summary what its first row says. -/
theorem find?_rows :
    (rows table).find? (·.1 == key) = some (key, n) ↔
      ∃ x, FirstRow table key x ∧ n = x.ceilWithin (UInt32.size - 1) := by
  have about (line : String) :
      (rowOf? line).any (·.1 == key) = true ↔ ∃ x, IsRow key x line := by
    cases row : rowOf? line with
    | none =>
      refine iff_of_false nofun ?_
      rintro ⟨x, isRow⟩
      cases row.symm.trans (rowOf?_eq_some_iff.2 ⟨x, isRow, rfl⟩)
    | some r =>
      obtain ⟨key', m⟩ := r
      obtain ⟨x, isRow, -⟩ := rowOf?_eq_some_iff.1 row
      rw [Option.any_some, beq_iff_eq]
      constructor
      · rintro rfl
        exact ⟨x, isRow⟩
      · rintro ⟨y, isRow'⟩
        cases row.symm.trans (rowOf?_eq_some_iff.2 ⟨y, isRow', rfl⟩)
        rfl
  rw [rows, find?_collected, List.find?_nil, Option.none_or, List.find?_filterMap,
    Option.bind_eq_some_iff]
  simp only [List.find?_eq_some_iff_append, about, rowOf?_eq_some_iff, Bool.not_eq_true',
    ← Bool.not_eq_true, not_exists]
  constructor
  · rintro ⟨line, ⟨-, before, after, lines, first⟩, x, isRow, rfl⟩
    exact ⟨x, ⟨before, line, after, lines, isRow, first⟩, rfl⟩
  · rintro ⟨x, ⟨before, line, after, lines, isRow, first⟩, rfl⟩
    exact ⟨line, ⟨⟨x, isRow⟩, before, after, lines, first⟩, x, isRow, rfl⟩

/-- The resources of a summary are identifiers. -/
theorem isIdentifier_of_mem_rows {row : String × Nat} (h : row ∈ rows table) :
    isIdentifier row.1.toList = true := by
  have labels : ∀ l ∈ rowLabels, isIdentifier l.2.toList = true := by decide +kernel
  have found : ((rows table).find? (·.1 == row.1)).isSome = true :=
    List.find?_isSome.2 ⟨row, h, beq_self_eq_true row.1⟩
  obtain ⟨⟨key, n⟩, hr⟩ := Option.isSome_iff_exists.1 found
  have same : key = row.1 := by simpa using List.find?_some hr
  subst same
  obtain ⟨x, ⟨-, -, -, -, ⟨⟨label, -, mem, -⟩, -⟩, -⟩, -⟩ := find?_rows.1 hr
  exact labels _ mem

/-! ## The entries of a summary -/

/-- What is written of a row. -/
def lineOf (row : String × Nat) : List Char :=
  row.1.toList ++ ':' :: ' ' :: (digits row.2 ++ ['%'])

/-- The entry that is read from it. -/
def entryOfRow (row : String × Nat) : Entry :=
  ⟨row.1.toList, digits row.2, (lineOf row).length⟩

theorem toList_summaryLine (row : String × Nat) : (summaryLine row).toList = lineOf row := by
  simp [summaryLine, lineOf, digits]

/-- A row as an entry that is written. -/
def writtenOf (row : String × Nat) : Written :=
  ⟨row.1.toList, true, digits row.2⟩

theorem proper_writtenOf {row : String × Nat} (identifier : isIdentifier row.1.toList = true) :
    (writtenOf row).Proper where
  identifier := identifier
  filled := digits_ne_nil row.2
  decimal _ mem := isDecimalDigit_of_isDigit (isDigit_of_mem_digits mem)

/-- A text is read after a line feed as it is at its start. -/
theorem entriesFrom_start (s : List Char) : entriesFrom 0 (some '\n') s = entriesFrom 0 none s := by
  have outside : Text.isWordNeighbour (some '\n') = Text.isWordNeighbour none := by decide
  cases s with
  | nil => rfl
  | cons c s =>
    have same : entryAt? (some '\n') (c :: s) = entryAt? none (c :: s) := by
      unfold entryAt? Text.isWordBoundary
      rw [outside]
    rw [entriesFrom, same, entriesFrom]

/-- The lines of a summary are read back one by one, where something follows that is read the same
after whatever comes before it. -/
theorem entriesFrom_summary {rs : List (String × Nat)}
    (identifiers : ∀ row ∈ rs, isIdentifier row.1.toList = true) {before : Option Char}
    (outside : Text.isWordNeighbour before = false) {s : List Char} {others : List Entry}
    (follow : ∀ b, entriesFrom 0 b s = others) :
    entriesFrom 0 before (['\n'].intercalate (rs.map lineOf) ++ s) =
      rs.map entryOfRow ++ others := by
  have proper : ∀ w ∈ rs.map writtenOf, w.Proper := by
    intro w mem
    obtain ⟨row, rowMem, rfl⟩ := List.mem_map.1 mem
    exact proper_writtenOf (identifiers row rowMem)
  have read := entriesFrom_intercalate separates_lineFeed proper outside follow
  rwa [List.map_map, List.map_map] at read

theorem toList_summarize (table : String) :
    (summarize table).toList = ['\n'].intercalate ((rows table).map lineOf) := by
  rw [summarize, String.toList_intercalate, List.map_map]
  congr 2
  exact funext toList_summaryLine

theorem entries_summarize (table : String) :
    entries (summarize table) = (rows table).map entryOfRow := by
  have read : entriesFrom 0 none (['\n'].intercalate ((rows table).map lineOf) ++ []) =
      (rows table).map entryOfRow ++ [] :=
    entriesFrom_summary (fun _ => isIdentifier_of_mem_rows) rfl fun b => by rw [entriesFrom]
  rw [List.append_nil, List.append_nil] at read
  rw [entries, toList_summarize, read]

/-- A report is read as its summary, and then the table itself. -/
theorem entries_reportText (table : String) :
    entries (VivadoGateway.reportText .utilization table) =
      (rows table).map entryOfRow ++ entries table := by
  have text : (VivadoGateway.reportText .utilization table).toList =
      ['\n'].intercalate ((rows table).map lineOf) ++ '\n' :: '\n' :: table.toList := by
    simp [VivadoGateway.reportText, toList_summarize]
  rw [entries, text]
  refine entriesFrom_summary (fun _ => isIdentifier_of_mem_rows) rfl fun b => ?_
  rw [entriesFrom_lineFeed, entriesFrom_lineFeed, entriesFrom_start]
  rfl

theorem find?_entryOfRow (rs : List (String × Nat)) (key : String) :
    (rs.map entryOfRow).find? (fun e => e.key == key.toList) =
      (rs.find? (·.1 == key)).map entryOfRow :=
  find?_map_entry (fun _ => rfl) rs key

/-! ## What is looked up -/

theorem readPercent_digits (h : n < percentLimit) :
    readPercent (digits n) = .found (UInt32.ofNat n) := by
  rw [readPercent, readNat?_digits]
  exact if_pos h

theorem ceilWithin_lt (x : Binary64) : x.ceilWithin (UInt32.size - 1) < percentLimit := by
  have held : x.ceilWithin (UInt32.size - 1) ≤ UInt32.size - 1 := by
    unfold Binary64.ceilWithin
    split
    · exact Nat.zero_le _
    · split
      · exact Nat.le_refl _
      · exact Nat.min_le_right _ _
  exact Nat.lt_of_le_of_lt held (by decide)

theorem ceilingOf_iff {m : UInt32} :
    CeilingOf x m ↔ m = UInt32.ofNat (x.ceilWithin (UInt32.size - 1)) := by
  have fits : (UInt32.ofNat (x.ceilWithin (UInt32.size - 1))).toNat =
      x.ceilWithin (UInt32.size - 1) := UInt32.toNat_ofNat_of_lt' (ceilWithin_lt x)
  constructor
  · intro h
    apply UInt32.toNat_inj.1
    rw [fits]
    rcases x.isNaN_or_isInfinite_or_isFinite with nan | infinite | finite
    · rw [h.nan nan, Binary64.ceilWithin_of_isNaN nan]
      rfl
    · rw [h.infinite infinite, Binary64.ceilWithin_of_isInfinite infinite]
    · rw [h.finite finite, Binary64.ceilWithin_of_isFinite finite]
  · rintro rfl
    constructor
    · intro nan
      rw [Binary64.ceilWithin_of_isNaN nan]
      rfl
    · intro infinite
      rw [fits, Binary64.ceilWithin_of_isInfinite infinite]
    · intro finite
      rw [fits, Binary64.ceilWithin_of_isFinite finite]
    · intro zero
      rw [zero] at fits
      exact Binary64.not_positive_of_ceilWithin_eq_zero (by decide) fits.symm

/-- The percentage of a resource in the summary of a table. -/
def summarized? (table key : String) : Option Nat :=
  ((rows table).find? (·.1 == key)).map (·.2)

theorem summarized?_eq_some_iff :
    summarized? table key = some n ↔
      ∃ x, FirstRow table key x ∧ n = x.ceilWithin (UInt32.size - 1) := by
  rw [← find?_rows, summarized?, Option.map_eq_some_iff]
  constructor
  · rintro ⟨⟨key', _⟩, found, rfl⟩
    have same : key' = key := by simpa using List.find?_some found
    rwa [same] at found
  · intro found
    exact ⟨(key, n), found, rfl⟩

theorem summarized?_of_firstRow (h : FirstRow table key x) :
    summarized? table key = some (x.ceilWithin (UInt32.size - 1)) :=
  summarized?_eq_some_iff.2 ⟨x, h, rfl⟩

/-- The summary wins over the table, and says nothing of what it does not name. -/
theorem lookup_reportText (identifier : isIdentifier key.toList = true) (table : String) :
    lookup (VivadoGateway.reportText .utilization table) key =
      match summarized? table key with
      | some n => readPercent (digits n)
      | none => lookup table key := by
  rw [lookup_eq_find? identifier, lookup_eq_find? identifier, entries_reportText,
    List.find?_append, find?_entryOfRow, summarized?]
  cases (rows table).find? (·.1 == key) <;> rfl

theorem percentage?_parse_summarize (table key : String) :
    (Report.parse (summarize table)).percentage? key =
      (summarized? table key).bind fun n => (readPercent (digits n)).percent? := by
  rw [percentage?_parse_eq_find?, entries_summarize, find?_entryOfRow, summarized?]
  cases (rows table).find? (·.1 == key) <;> rfl

/-- The summary holds what the first rows of the table say, and nothing else. -/
theorem percentage?_parse_summarize_iff {m : UInt32} :
    (Report.parse (summarize table)).percentage? key = some m ↔
      ∃ x, FirstRow table key x ∧ CeilingOf x m := by
  rw [percentage?_parse_summarize, Option.bind_eq_some_iff]
  simp only [summarized?_eq_some_iff, ceilingOf_iff]
  constructor
  · rintro ⟨n, ⟨x, first, rfl⟩, percent⟩
    rw [readPercent_digits (ceilWithin_lt x)] at percent
    exact ⟨x, first, (Option.some.inj percent).symm⟩
  · rintro ⟨x, first, rfl⟩
    refine ⟨_, ⟨x, first, rfl⟩, ?_⟩
    rw [readPercent_digits (ceilWithin_lt x)]
    rfl

/-- **What a table says is what is looked up.** Where a resource has a row in the utilization
report, the lookup finds the percentage of its first one, rounded up, whatever else the report
says; any other identifier is looked up as in the report alone. The summary by itself holds just
the resources that have such rows. -/
theorem analyze_utilization_lookup (g : VivadoGateway) (w : Workbench) {raw key : String}
    (readable : w.files.readText (g.buildDir.child Metric.utilization.reportFile) = .ok raw)
    (identifier : isIdentifier key.toList = true) :
    ∃ text, g.analyze "utilization" w = (w, .ok (.report .utilization text)) ∧
      (∀ x, FirstRow raw key x → ∃ n, lookup text key = .found n ∧ CeilingOf x n) ∧
      ((∀ x, ¬ FirstRow raw key x) → lookup text key = lookup raw key) ∧
      ∀ resource n, (Report.parse (summarize raw)).percentage? resource = some n ↔
        ∃ x, FirstRow raw resource x ∧ CeilingOf x n := by
  refine ⟨VivadoGateway.reportText .utilization raw, ?_, ?_, ?_, ?_⟩
  · have metric : Metric.read "utilization" = .ok .utilization := by decide +kernel
    rw [VivadoGateway.analyze, metric]
    dsimp only
    rw [readable]
  · intro x first
    rw [lookup_reportText identifier, summarized?_of_firstRow first]
    exact ⟨_, readPercent_digits (ceilWithin_lt x), ceilingOf_iff.2 rfl⟩
  · intro absent
    have unnamed : summarized? raw key = none := by
      rw [Option.eq_none_iff_forall_ne_some]
      intro n found
      obtain ⟨x, first, -⟩ := summarized?_eq_some_iff.1 found
      exact absent x first
    rw [lookup_reportText identifier, unnamed]
  · intro resource n
    exact percentage?_parse_summarize_iff

/-- A report of one row, in the root folder. -/
def oneRowReport : Workbench where
  files := FileSystem.bare.put ["post_route_util.rpt"] (.file 1 0 "|DSPs|2.5|".toUTF8)
  memory := .empty

theorem firstRow_oneRowReport : FirstRow "|DSPs|2.5|" "DSP" ⟨0x4004000000000000⟩ := by
  have lines : Text.lines "|DSPs|2.5|" = ["|DSPs|2.5|"] := by decide +kernel
  refine ⟨[], "|DSPs|2.5|", [], lines, ⟨?_, ?_⟩, nofun⟩
  · exact ⟨"DSPs", "DSPs".toList, by decide +kernel, by decide +kernel, List.prefix_refl _⟩
  · exact ⟨"2.5".toList, by decide +kernel, by decide +kernel⟩

/-- Two and a half percent are reported as three. -/
theorem lookup_oneRowReport :
    ∃ text, (⟨⟨"/"⟩, {}, 0⟩ : VivadoGateway).analyze "utilization" oneRowReport =
        (oneRowReport, .ok (.report .utilization text)) ∧
      lookup text "DSP" = .found 3 := by
  have readable : oneRowReport.files.readText (Path.child ⟨"/"⟩ Metric.utilization.reportFile) =
      .ok "|DSPs|2.5|" :=
    FileSystem.flat_bare.readText_put (by decide +kernel) 1 0 _
  have identifier : isIdentifier "DSP".toList = true := by decide +kernel
  obtain ⟨text, reported, found, -⟩ :=
    analyze_utilization_lookup ⟨⟨"/"⟩, {}, 0⟩ oneRowReport readable identifier
  obtain ⟨n, looked, ceiling⟩ := found _ firstRow_oneRowReport
  have three : n = 3 := (ceilingOf_iff.1 ceiling).trans (by decide +kernel)
  rw [three] at looked
  exact ⟨text, reported, looked⟩

end CoreTrial.Utilization
