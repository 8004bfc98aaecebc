import CoreTrial.Encoding
import CoreTrial.Proofs.Number.Hex
import CoreTrial.Proofs.Patch.Repetition
import CoreTrial.Proofs.Text.FirstOccurrence

/-!
# Reading a region back

A reader of regions that knows nothing of how they were written: a literal in either language, an
optional block comment up to the first end of one, and the separator or the end of the region. It
finds the words of every program, whatever the comments hold. A comment cannot end early, since no
end of a comment is left inside it and none arises where it meets its own end.
-/

set_option autoImplicit false

namespace CoreTrial

namespace Encoding

/-- What stands before the digits of a literal. -/
def literalOpening : EncodingFormat → List Char
  | .chisel => "\"h".toList
  | .verilog => "32'h".toList

/-- What stands after the digits of a literal. -/
def literalClosing : EncodingFormat → List Char
  | .chisel => "\".U(32.W)".toList
  | .verilog => []

/-- The word of a literal of one language, and what follows it. -/
def readLiteralAs? (s : List Char) (format : EncodingFormat) : Option (UInt32 × List Char) :=
  (Text.after? (literalOpening format) s).bind fun digits =>
    if 8 ≤ digits.length then
      (Number.readHex? (digits.take 8)).bind fun n =>
        (Text.after? (literalClosing format) (digits.drop 8)).map fun rest =>
          (UInt32.ofNat n, rest)
    else none

/-- The word of a literal, and what follows it. -/
def readLiteral? (s : List Char) : Option (UInt32 × List Char) :=
  EncodingFormat.all.findSome? (readLiteralAs? s)

/-- The text after a block comment, where there is one. There is none where it does not end. -/
def skipComment? (s : List Char) : Option (List Char) :=
  match Text.after? " /*".toList s with
  | some rest => (Text.cut? "*/".toList rest).map fun p => p.2
  | none => some s

/-- The word of an entry, and what follows it. -/
def readEntry? (s : List Char) : Option (UInt32 × List Char) :=
  (readLiteral? s).bind fun (word, rest) => (skipComment? rest).map fun rest => (word, rest)

theorem length_after? {p s rest : List Char} (h : Text.after? p s = some rest) :
    rest.length + p.length = s.length := by
  rw [Text.after?_eq_some_iff.1 h, List.length_append, Nat.add_comm]

theorem length_readEntry? {s rest : List Char} {word : UInt32}
    (h : readEntry? s = some (word, rest)) : rest.length ≤ s.length := by
  obtain ⟨⟨w, literal⟩, read, skipped⟩ := Option.bind_eq_some_iff.1 h
  obtain ⟨r, skip, same⟩ := Option.map_eq_some_iff.1 skipped
  cases same
  have shorter : rest.length ≤ literal.length := by
    unfold skipComment? at skip
    split at skip
    · rename_i comment opened
      obtain ⟨⟨before, after⟩, cut, rfl⟩ := Option.map_eq_some_iff.1 skip
      have length := congrArg List.length (Text.eq_of_cut? cut)
      simp only [List.length_append] at length
      have := length_after? opened
      show after.length ≤ literal.length
      omega
    · cases skip
      exact Nat.le_refl _
  obtain ⟨format, -, as⟩ := List.exists_of_findSome?_eq_some read
  obtain ⟨digits, opened, rest_read⟩ := Option.bind_eq_some_iff.1 as
  split at rest_read
  · obtain ⟨n, -, closed⟩ := Option.bind_eq_some_iff.1 rest_read
    obtain ⟨r, closed, same⟩ := Option.map_eq_some_iff.1 closed
    cases same
    have := length_after? opened
    have := length_after? closed
    rw [List.length_drop] at this
    omega
  · cases rest_read

/-- The words of the entries of a region, from its first entry on. -/
def readEntries? (s : List Char) : Option (List UInt32) :=
  match _entry : readEntry? s with
  | none => none
  | some (word, rest) =>
    if rest = Region.closing then some [word]
    else match _next : Text.after? Region.separator rest with
      | none => none
      | some rest => (readEntries? rest).map (word :: ·)
termination_by s.length
decreasing_by
  have read := length_readEntry? _entry
  have skipped := length_after? _next
  have pos : 0 < Region.separator.length := by decide
  omega

end Encoding

/-- The words of a region. -/
def Region.readWords? (region : List Char) : Option (List UInt32) :=
  (Text.after? Region.opening region).bind Encoding.readEntries?

namespace Encoding

theorem literal_eq (format : EncodingFormat) (w : UInt32) :
    literal format w =
      literalOpening format ++ Number.hexWord .upper w ++ literalClosing format := by
  cases format with
  | chisel => rfl
  | verilog => exact (List.append_nil _).symm

theorem readLiteralAs?_literal (format : EncodingFormat) (w : UInt32) (rest : List Char) :
    readLiteralAs? (literal format w ++ rest) format = some (w, rest) := by
  have eight : (Number.hexWord .upper w).length = 8 := Number.length_hexPlaces .upper 8 w.toNat
  have enough : 8 ≤ (Number.hexWord .upper w ++ (literalClosing format ++ rest)).length := by
    rw [List.length_append, eight]
    omega
  rw [literal_eq, List.append_assoc, List.append_assoc, readLiteralAs?, Text.after?_append_self,
    Option.bind_some, if_pos enough, List.take_left' eight, List.drop_left' eight,
    Number.readHex?_hexWord, Option.bind_some, Text.after?_append_self, Option.map_some,
    UInt32.ofNat_toNat]

/-- The first character of a literal tells its language. -/
theorem readLiteral?_literal (format : EncodingFormat) (w : UInt32) (rest : List Char) :
    readLiteral? (literal format w ++ rest) = some (w, rest) := by
  have own := readLiteralAs?_literal format w rest
  rw [readLiteral?, EncodingFormat.all, List.findSome?_cons]
  cases format with
  | chisel => rw [own]
  | verilog =>
    have other : readLiteralAs? (literal .verilog w ++ rest) .chisel = none := rfl
    rw [other, List.findSome?_cons, own]

theorem head?_breakCommentEnds (s : List Char) : (breakCommentEnds s).head? = s.head? := by
  fun_cases breakCommentEnds s <;> rfl

/-- The first end of a comment, looked for from its text on, is its own. -/
theorem cut?_breakCommentEnds (comment rest : List Char) :
    Text.cut? "*/".toList (breakCommentEnds comment ++ " */".toList ++ rest) =
      some (breakCommentEnds comment ++ [' '], rest) := by
  rw [List.append_assoc]
  fun_induction breakCommentEnds comment with
  | case1 comment ih =>
    change Text.cut? "*/".toList
      ('*' :: ' ' :: '/' :: (breakCommentEnds comment ++ (" */".toList ++ rest))) = _
    rw [Text.cut?_cons rfl, Text.cut?_cons rfl, Text.cut?_cons rfl, ih]
    rfl
  | case2 c comment other ih =>
    have inside : Text.after? "*/".toList
        (c :: (breakCommentEnds comment ++ (" */".toList ++ rest))) = none := by
      by_cases star : c = '*'
      -- A slash after a star would have been taken with it.
      · subst star
        show Text.after? ['/'] _ = none
        refine Text.after?_of_head?_ne ?_
        rw [List.head?_append, head?_breakCommentEnds]
        cases comment with
        | nil =>
          show some ' ' ≠ some '/'
          decide
        | cons d comment =>
          rintro ⟨⟩
          exact other comment rfl rfl
      · exact Text.after?_of_head?_ne fun same => star (Option.some.inj same)
    rw [List.cons_append, Text.cut?_cons inside, ih]
    rfl
  | case3 =>
    change Text.cut? "*/".toList (' ' :: ("*/".toList ++ rest)) = _
    rw [Text.cut?_cons rfl, Text.cut?_append_self]
    rfl

theorem skipComment?_blockComment (comment rest : List Char) :
    skipComment? (' ' :: blockComment comment ++ rest) = some rest := by
  have text : ' ' :: blockComment comment ++ rest =
      " /*".toList ++ (' ' :: (breakCommentEnds comment ++ " */".toList ++ rest)) := by
    simp only [blockComment, List.append_assoc, List.cons_append]
    rfl
  rw [text, skipComment?, Text.after?_append_self]
  dsimp only
  rw [Text.cut?_cons rfl, cut?_breakCommentEnds]
  rfl

theorem skipComment?_of_head?_ne {rest : List Char} (h : rest.head? ≠ some ' ') :
    skipComment? rest = some rest := by
  have none_here : Text.after? " /*".toList rest = none := Text.after?_of_head?_ne h
  rw [skipComment?, none_here]

/-- An entry is read back where no blank follows it. -/
theorem readEntry?_entry (options : EncodeOptions) (i : Instruction) {rest : List Char}
    (h : rest.head? ≠ some ' ') :
    readEntry? ((entry options i).toList ++ rest) = some (i.word, rest) := by
  rw [entry, String.toList_ofList, readEntry?]
  split
  · rw [List.append_assoc, readLiteral?_literal, Option.bind_some]
    show (skipComment? (' ' :: blockComment i.comment.toList ++ rest)).map _ = _
    rw [skipComment?_blockComment]
    rfl
  · rw [readLiteral?_literal, Option.bind_some]
    show (skipComment? rest).map _ = _
    rw [skipComment?_of_head?_ne h]
    rfl

theorem readEntries?_of_readEntry? {s rest : List Char} {word : UInt32}
    (h : readEntry? s = some (word, rest)) :
    readEntries? s =
      if rest = Region.closing then some [word]
      else (Text.after? Region.separator rest).bind fun rest =>
        (readEntries? rest).map (word :: ·) := by
  rw [readEntries?, h]
  dsimp only
  cases Text.after? Region.separator rest <;> rfl

/-- All entries are read back, up to the end of the region. -/
theorem readEntries?_join (options : EncodeOptions) (i : Instruction) (is : List Instruction) :
    readEntries?
        (Text.join Region.separator ((i :: is).map fun i => (entry options i).toList) ++
          Region.closing) =
      some ((i :: is).map fun i => i.word) := by
  induction is generalizing i with
  | nil =>
    have last : Region.closing.head? ≠ some ' ' := by decide
    rw [List.map_singleton, List.map_singleton, Text.join,
      readEntries?_of_readEntry? (readEntry?_entry options i last), if_pos rfl]
  | cons j is ih =>
    have between (s : List Char) : (Region.separator ++ s).head? ≠ some ' ' := by
      show some ',' ≠ some ' '
      decide
    have goes_on (s : List Char) : Region.separator ++ s ≠ Region.closing := by
      rintro ⟨⟩
    simp only [List.map_cons] at ih ⊢
    rw [Text.join, List.append_assoc, List.append_assoc,
      readEntries?_of_readEntry? (readEntry?_entry options i (between _)), if_neg (goes_on _),
      Text.after?_append_self, Option.bind_some, ih, Option.map_some]

/-- A region gives back the words of the program that was written into it. -/
theorem readWords?_render (options : EncodeOptions) (p : Program) :
    Region.readWords? (Region.render (entries options p)) = some p.words := by
  obtain ⟨i, is, whole⟩ := List.exists_cons_of_ne_nil p.instructions_ne_nil
  rw [Region.readWords?, Region.render, List.append_assoc, Text.after?_append_self,
    Option.bind_some, entries, List.map_map, Program.words, whole]
  exact readEntries?_join options i is

/-- **A region determines the program in it.** One reader finds the words of every program in its
region, in order, whatever the language, with comments or without. So two programs with the same
region have the same words, and a patch that changes nothing has found these words in the file. -/
theorem region_determines_words :
    (∀ (options : EncodeOptions) (p : Program),
      Region.readWords? (Region.render (entries options p)) = some p.words) ∧
    (∀ (options options' : EncodeOptions) (p p' : Program), p.words ≠ p'.words →
      Region.render (entries options p) ≠ Region.render (entries options' p')) ∧
    (∀ (fs fs' : FileSystem) (t : PatchTarget) (options : EncodeOptions) (p : Program)
      (o : PatchOutcome), Patch.apply fs t (entries options p) = .ok (fs', o) →
      o.changed = false → ∃ content m, fs.readText t.path = .ok content ∧
        Patch.parseRegion content t.startMarker t.endMarker t.path = .ok m ∧
        Region.readWords? m.body = some p.words) := by
  refine ⟨readWords?_render, ?_, ?_⟩
  · intro options options' p p' other same
    have words := readWords?_render options p
    rw [same, readWords?_render] at words
    exact other (Option.some.inj words).symm
  · intro fs fs' t options p o patched unchanged
    obtain ⟨-, content, m, read, parsed, ⟨same, -, -⟩ | ⟨-, -, rfl⟩⟩ := Patch.apply_eq_ok patched
    · refine ⟨content, m, read, parsed, ?_⟩
      rw [← readWords?_render options p, Patch.body_of_splice_eq parsed same]
    · cases unchanged

/-- A patch that leaves its file as it is has found its one word there, and no region of another
program. -/
theorem unchanged_region_holds_halt :
    let p : Program := ⟨"halt", [⟨0x0000006F, ""⟩], by decide⟩
    let other : Program := ⟨"add", [⟨0x00108093, "halt"⟩, ⟨0x0000006F, ""⟩], by decide⟩
    let content := "<<\n    \"h0000006F\".U(32.W)\n  >>"
    let fs := Patch.oneFile 0 content.toUTF8
    Patch.apply fs Patch.oneTarget (entries ⟨.chisel, false⟩ p) = .ok (fs, ⟨false, 1, 0⟩) ∧
      (∃ content m, fs.readText Patch.oneTarget.path = .ok content ∧
        Patch.parseRegion content "<<" ">>" Patch.oneTarget.path = .ok m ∧
        Region.readWords? m.body = some [0x0000006F]) ∧
      Region.render (entries ⟨.chisel, false⟩ p) ≠
        Region.render (entries ⟨.verilog, true⟩ other) := by
  intro p other content fs
  let m : MarkedText :=
    ⟨[], ['<', '<'], "\n    \"h0000006F\".U(32.W)\n  ".toList, ['>', '>'], []⟩
  have fit : Patch.validate (entries ⟨.chisel, false⟩ p) ">>" = .ok () := by decide +kernel
  have parsed : Patch.parseRegion content "<<" ">>" Patch.oneTarget.path = .ok m := by
    decide +kernel
  have same : Region.splice m (entries ⟨.chisel, false⟩ p) = content := by decide +kernel
  have patched : Patch.apply fs Patch.oneTarget (entries ⟨.chisel, false⟩ p) =
      .ok (fs, ⟨false, 1, 0⟩) :=
    Patch.apply_of_splice_eq fit (Patch.readText_oneFile 0 content) parsed same
  obtain ⟨-, apart, found⟩ := region_determines_words
  exact ⟨patched, found fs fs Patch.oneTarget ⟨.chisel, false⟩ p _ patched rfl,
    apart ⟨.chisel, false⟩ ⟨.verilog, true⟩ p other (by decide)⟩

end Encoding

end CoreTrial
