import CoreTrial.Proofs.Encoding.Nesting
import CoreTrial.Proofs.Region.Reinjection
import CoreTrial.Settings.Pipeline

/-!
# Which programs the default end marker refuses

The default end marker is two closing parentheses, and every literal of one language ends in one.
An occurrence of a marker cannot reach over a character that the marker does not have, and such
characters stand between all parts of a region: around every comment, where the end of a comment is
broken up, between two entries and before the end of the region. So the marker stands in a region
where it stands in a comment, and nowhere else (`refused_for_comment_alone`).
-/

set_option autoImplicit false

namespace CoreTrial

namespace Text

variable {pattern s t : List Char} {c : Char}

/-- No occurrence of a pattern reaches over a character that it does not have. -/
theorem infix_append_cons_iff (filled : pattern ≠ []) (foreign : c ∉ pattern) :
    pattern <:+: s ++ c :: t ↔ pattern <:+: s ∨ pattern <:+: t := by
  rw [List.infix_append_iff, List.infix_cons_iff]
  constructor
  · rintro (left | (start | right) | ⟨x, y, rfl, ends, start⟩)
    · exact .inl left
    · obtain ⟨d, pattern, rfl⟩ := List.exists_cons_of_ne_nil filled
      obtain ⟨rfl, -⟩ := List.cons_prefix_cons.1 start
      exact absurd List.mem_cons_self foreign
    · exact .inr right
    · cases y with
      | nil => exact .inl (by simpa using ends.isInfix)
      | cons d y =>
        obtain ⟨rfl, -⟩ := List.cons_prefix_cons.1 start
        exact absurd (List.mem_append_right x List.mem_cons_self) foreign
  · rintro (left | right)
    · exact .inl left
    · exact .inr (.inl (.inr right))

/-- Characters that a pattern does not have can be put before a text. -/
theorem infix_foreign_append_iff {x : List Char} (filled : pattern ≠ [])
    (foreign : ∀ c ∈ x, c ∉ pattern) : pattern <:+: x ++ s ↔ pattern <:+: s := by
  induction x with
  | nil => rfl
  | cons c x ih =>
    have here := infix_append_cons_iff (s := []) (t := x ++ s) filled
      (foreign c List.mem_cons_self)
    rw [List.nil_append, List.infix_nil, or_iff_right filled] at here
    rw [List.cons_append, here]
    exact ih fun d mem => foreign d (List.mem_cons_of_mem c mem)

/-- Characters that a pattern does not have keep two texts apart. -/
theorem infix_append_foreign_append_iff {x : List Char} (filled : pattern ≠ [])
    (between : x ≠ []) (foreign : ∀ c ∈ x, c ∉ pattern) :
    pattern <:+: s ++ x ++ t ↔ pattern <:+: s ∨ pattern <:+: t := by
  obtain ⟨c, x, rfl⟩ := List.exists_cons_of_ne_nil between
  rw [List.append_assoc, List.cons_append,
    infix_append_cons_iff filled (foreign c List.mem_cons_self),
    infix_foreign_append_iff filled fun d mem => foreign d (List.mem_cons_of_mem c mem)]

/-- A pattern occurs in parts that such characters keep apart where it occurs in one of them. -/
theorem infix_join_iff {separator : List Char} (filled : pattern ≠ []) (between : separator ≠ [])
    (foreign : ∀ c ∈ separator, c ∉ pattern) (parts : List (List Char)) :
    pattern <:+: join separator parts ↔ ∃ part ∈ parts, pattern <:+: part := by
  induction parts with
  | nil => simp [join, filled]
  | cons part parts ih =>
    cases parts with
    | nil => simp [join]
    | cons next parts =>
      rw [join, infix_append_foreign_append_iff filled between foreign, ih]
      exact (List.exists_mem_cons_iff pattern.IsInfix part (next :: parts)).symm

/-- A pattern put after a text whose last character it does not have occurs there first exactly
where it does not occur in the text. -/
theorem cut?_foreign_iff (foreign : c ∉ pattern) (filled : pattern ≠ []) :
    cut? pattern (s ++ [c] ++ pattern) = some (s ++ [c], []) ↔ ¬ pattern <:+: s ++ [c] := by
  rw [cut?_eq_some_iff, List.append_nil, and_iff_right rfl]
  constructor
  · rintro least ⟨x, y, whole⟩
    have le := least x (y ++ pattern) (by rw [← whole, List.append_assoc])
    have length := congrArg List.length whole
    have pos := List.length_pos_of_ne_nil filled
    simp only [List.length_append] at le length
    omega
  · intro absent x y whole
    by_contra early
    simp only [List.length_append, List.length_singleton, not_le] at early
    rw [List.append_assoc, List.append_assoc, List.singleton_append] at whole
    obtain ⟨z, rfl⟩ : x <+: s :=
      List.prefix_of_prefix_length_le (whole ▸ List.prefix_append x _) (List.prefix_append s _)
        (Nat.le_of_lt_succ early)
    rw [List.append_assoc, List.append_cancel_left_eq] at whole
    refine absent ?_
    rw [infix_append_cons_iff filled foreign]
    obtain ⟨rest, same, tail⟩ | ⟨rest, rfl, -⟩ := List.append_eq_append_iff.1 whole
    · cases rest with
      | nil =>
        rw [same, List.append_nil]
        exact .inl (List.suffix_append x z).isInfix
      | cons d rest =>
        obtain ⟨rfl, -⟩ := List.cons.inj tail
        rw [same] at foreign
        exact absurd (List.mem_append_right z List.mem_cons_self) foreign
    · exact .inl ⟨x, rest, List.append_assoc _ _ _⟩

end Text

namespace Encoding

/-- The end marker of a program that is injected with settings of its own. -/
def defaultMarker : String := ({} : PatchSettings).endMarker

variable {pattern s : List Char}

/-- A text begins as it does with the ends of comments in it broken up, up to the first star. -/
theorem prefix_breakCommentEnds_iff (foreign : '*' ∉ pattern) :
    pattern <+: breakCommentEnds s ↔ pattern <+: s := by
  fun_induction breakCommentEnds s generalizing pattern with
  | case1 rest ih =>
    cases pattern with
    | nil => simp
    | cons d pattern =>
      refine iff_of_false ?_ ?_ <;>
      · intro start
        obtain ⟨rfl, -⟩ := List.cons_prefix_cons.1 start
        exact foreign List.mem_cons_self
  | case2 c rest _ ih =>
    cases pattern with
    | nil => simp
    | cons d pattern =>
      rw [List.cons_prefix_cons, List.cons_prefix_cons,
        ih fun mem => foreign (List.mem_cons_of_mem d mem)]
  | case3 => rfl

/-- Where a pattern has no star, no space and no slash, breaking up the ends of comments neither
makes an occurrence of it nor removes one. -/
theorem infix_breakCommentEnds_iff (filled : pattern ≠ [])
    (foreign : ∀ c ∈ "* /".toList, c ∉ pattern) :
    pattern <:+: breakCommentEnds s ↔ pattern <:+: s := by
  have marks : ∀ c ∈ ['*', ' ', '/'], c ∉ pattern := foreign
  fun_induction breakCommentEnds s with
  | case1 rest ih =>
    have broken := Text.infix_foreign_append_iff (s := breakCommentEnds rest) filled marks
    have whole := Text.infix_foreign_append_iff (s := rest) (x := ['*', '/']) filled
      fun c mem => marks c (by simp at mem ⊢; tauto)
    exact broken.trans (ih.trans whole.symm)
  | case2 c rest other ih =>
    have begins : pattern <+: breakCommentEnds (c :: rest) ↔ pattern <+: c :: rest :=
      prefix_breakCommentEnds_iff (marks '*' (by decide))
    rw [breakCommentEnds] at begins
    · exact List.infix_cons_iff.trans ((or_congr begins ih).trans List.infix_cons_iff.symm)
    · exact other
  | case3 => rfl

/-- The default marker does not stand in a literal, whose only parenthesis that closes is its last
character. -/
theorem not_infix_literal (format : EncodingFormat) (w : UInt32) :
    ¬ defaultMarker.toList <:+: literal format w := by
  change ¬ [')', ')'] <:+: literal format w
  have digits : ')' ∉ Number.hexWord .upper w := by
    intro mem
    have alphanumeric := Number.isAlphanum_of_mem_hexPlaces .upper mem
    cases alphanumeric
  cases format with
  | chisel =>
    have parts : literal .chisel w =
        "\"h".toList ++ Number.hexWord .upper w ++ "\".U(32.W".toList ++ [')'] := by
      rw [literal, List.append_assoc _ _ [')']]
      rfl
    have inside : ')' ∉ "\"h".toList ++ Number.hexWord .upper w ++ "\".U(32.W".toList := by
      simp [digits]
    rw [parts, List.infix_concat_iff]
    rintro (ends | within)
    · obtain ⟨s, same⟩ := ends
      have before := List.append_inj_left' ((List.append_cons s ')' [')']).symm.trans same) rfl
      exact inside (before ▸ List.mem_append_right s List.mem_cons_self)
    · exact inside (within.subset List.mem_cons_self)
  | verilog =>
    have inside : ')' ∉ literal .verilog w := by
      simp [literal, digits]
    exact fun found => inside (found.subset List.mem_cons_self)

theorem defaultMarker_filled : defaultMarker.toList ≠ [] :=
  List.cons_ne_nil ')' [')']

/-- The marker has no character but that parenthesis. -/
theorem foreign_of_notMem {s : List Char} (absent : ')' ∉ s) :
    ∀ c ∈ s, c ∉ defaultMarker.toList := by
  intro c mem found
  change c ∈ [')', ')'] at found
  simp only [List.mem_cons, List.not_mem_nil, or_false, or_self] at found
  exact absent (found ▸ mem)

theorem space_foreign : ' ' ∉ defaultMarker.toList :=
  foreign_of_notMem (s := [' ']) (by decide) ' ' List.mem_cons_self

/-- The marker stands in a block comment where it stands in the comment. -/
theorem infix_blockComment_iff (comment : List Char) :
    defaultMarker.toList <:+: blockComment comment ↔ defaultMarker.toList <:+: comment := by
  have opening := foreign_of_notMem (s := "/* ".toList) (by decide)
  have closing := foreign_of_notMem (s := "*/".toList) (by decide)
  have nothing : ¬ defaultMarker.toList <:+: "*/".toList := by
    rw [← List.append_nil "*/".toList,
      Text.infix_foreign_append_iff defaultMarker_filled closing, List.infix_nil]
    exact defaultMarker_filled
  have parts : blockComment comment =
      "/* ".toList ++ (breakCommentEnds comment ++ ' ' :: "*/".toList) := by
    rw [blockComment, List.append_assoc]
    rfl
  rw [parts, Text.infix_foreign_append_iff defaultMarker_filled opening,
    Text.infix_append_cons_iff defaultMarker_filled space_foreign, or_iff_left nothing]
  exact infix_breakCommentEnds_iff defaultMarker_filled (foreign_of_notMem (by decide))

/-- The marker stands in an annotated entry where it stands in the comment. -/
theorem infix_entry_iff (format : EncodingFormat) (i : Instruction) :
    defaultMarker.toList <:+: (entry ⟨format, true⟩ i).toList ↔
      defaultMarker.toList <:+: i.comment.toList := by
  rw [toList_entry]
  by_cases empty : i.comment = ""
  · rw [if_pos empty, List.append_nil, empty]
    exact iff_of_false (not_infix_literal format i.word)
      (fun found => defaultMarker_filled (List.infix_nil.1 found))
  · rw [if_neg empty, Text.infix_append_cons_iff defaultMarker_filled space_foreign,
      or_iff_right (not_infix_literal format i.word)]
    exact infix_blockComment_iff i.comment.toList

/-- Entries are fit for the region of the default marker where none of them has it: it does not
reach from one entry into what stands between, nor into the end of the region. -/
theorem accepts_defaultMarker_iff (entries : List String) :
    Region.accepts defaultMarker entries = true ↔
      ∀ e ∈ entries, ¬ defaultMarker.toList <:+: e.toList := by
  have opening := foreign_of_notMem (s := Region.opening) (by decide)
  have separator := foreign_of_notMem (s := Region.separator) (by decide)
  have closing := foreign_of_notMem (s := Region.closing) (by decide)
  have region : Region.render entries =
      Region.opening ++ Text.join Region.separator (entries.map String.toList) ++ "\n ".toList
        ++ [' '] := by
    rw [Region.render, List.append_assoc _ _ [' ']]
    rfl
  have inRegion : defaultMarker.toList <:+: Region.render entries ↔
      ∃ e ∈ entries, defaultMarker.toList <:+: e.toList := by
    have joined := Text.infix_join_iff defaultMarker_filled (by decide) separator
      (entries.map String.toList)
    rw [Region.render, ← List.append_nil Region.closing, ← List.append_assoc,
      Text.infix_append_foreign_append_iff defaultMarker_filled (by decide) closing,
      Text.infix_foreign_append_iff defaultMarker_filled opening, joined, List.infix_nil,
      or_iff_left defaultMarker_filled]
    constructor
    · rintro ⟨_, mem, found⟩
      obtain ⟨e, listed, rfl⟩ := List.mem_map.1 mem
      exact ⟨e, listed, found⟩
    · rintro ⟨e, mem, found⟩
      exact ⟨e.toList, List.mem_map_of_mem mem, found⟩
  rw [Region.accepts_iff, region,
    Text.cut?_foreign_iff space_foreign defaultMarker_filled, ← region, inRegion]
  exact not_exists.trans (forall_congr' fun e => not_and)

/-- The entry that a refusal names. -/
theorem firstHolding_eq_some_iff (format : EncodingFormat) {p : Program} {k : Nat} :
    Region.firstHolding defaultMarker (entries ⟨format, true⟩ p) = some k ↔
      (∃ i, p.instructions[k]? = some i ∧ defaultMarker.toList <:+: i.comment.toList) ∧
        ∀ j ∈ p.instructions.take k, ¬ defaultMarker.toList <:+: j.comment.toList := by
  have holds (i : Instruction) : Text.contains (entry ⟨format, true⟩ i) defaultMarker = true ↔
      defaultMarker.toList <:+: i.comment.toList :=
    Text.occursIn_iff.trans (infix_entry_iff format i)
  rw [Region.firstHolding, entries, List.findIdx?_map, List.findIdx?_eq_some_iff_getElem]
  simp only [Function.comp_apply, holds]
  constructor
  · rintro ⟨here, found, before⟩
    refine ⟨⟨p.instructions[k], List.getElem?_eq_getElem here, found⟩, ?_⟩
    intro j mem
    obtain ⟨n, lt, rfl⟩ := List.mem_take_iff_getElem.1 mem
    exact before n (by omega)
  · rintro ⟨⟨i, at_k, found⟩, before⟩
    obtain ⟨here, rfl⟩ := List.getElem?_eq_some_iff.1 at_k
    refine ⟨here, found, ?_⟩
    intro n earlier
    exact before _ (List.mem_take_iff_getElem.2 ⟨n, by omega, rfl⟩)

/-- The marker is in no entry that has its literal alone. -/
theorem accepts_bare (format : EncodingFormat) (p : Program) :
    Region.accepts defaultMarker (entries ⟨format, false⟩ p) = true := by
  rw [accepts_defaultMarker_iff]
  intro e mem
  obtain ⟨i, -, rfl⟩ := List.mem_map.1 mem
  rw [entry, String.toList_ofList]
  exact not_infix_literal format i.word

theorem accepts_annotated_iff (format : EncodingFormat) (p : Program) :
    Region.accepts defaultMarker (entries ⟨format, true⟩ p) = true ↔
      ∀ i ∈ p.instructions, ¬ defaultMarker.toList <:+: i.comment.toList := by
  rw [accepts_defaultMarker_iff, entries, List.forall_mem_map]
  exact forall₂_congr fun i _ => not_congr (infix_entry_iff format i)

/-- A refusal names an entry. -/
theorem firstHolding_isSome {format : EncodingFormat} {p : Program}
    (refused : ¬ Region.accepts defaultMarker (entries ⟨format, true⟩ p) = true) :
    ∃ k, Region.firstHolding defaultMarker (entries ⟨format, true⟩ p) = some k := by
  rw [accepts_defaultMarker_iff] at refused
  push Not at refused
  obtain ⟨e, mem, found⟩ := refused
  rw [← Option.isSome_iff_exists, Region.firstHolding, List.findIdx?_isSome, List.any_eq_true]
  exact ⟨e, mem, Text.occursIn_iff.2 found⟩

/-- **A program is refused for a comment alone.** With the default end marker the entries of every
program, in both formats, are fit for a region where they have no comments. Where they have them,
the program is refused exactly if a comment has the marker, and the refusal names the first
instruction of which the comment has it; there always is one. So neither the words of a program, nor
how many there are, nor what stands between two literals and comments is a reason. -/
theorem refused_for_comment_alone (format : EncodingFormat) (p : Program) :
    Patch.validate (entries ⟨format, false⟩ p) defaultMarker = .ok () ∧
    (Patch.validate (entries ⟨format, true⟩ p) defaultMarker = .ok () ↔
      ∀ i ∈ p.instructions, ¬ defaultMarker.toList <:+: i.comment.toList) ∧
    ∀ e, Patch.validate (entries ⟨format, true⟩ p) defaultMarker = .error e ↔
      ∃ k i, e = .endMarkerInEntries defaultMarker (some k) ∧ p.instructions[k]? = some i ∧
        defaultMarker.toList <:+: i.comment.toList ∧
        ∀ j ∈ p.instructions.take k, ¬ defaultMarker.toList <:+: j.comment.toList := by
  refine ⟨Patch.validate_eq_ok_iff.2 (accepts_bare format p),
    Patch.validate_eq_ok_iff.trans (accepts_annotated_iff format p), ?_⟩
  intro e
  constructor
  · intro refused
    rw [Patch.validate] at refused
    split at refused
    · cases refused
    · rename_i unfit
      obtain ⟨k, first⟩ := firstHolding_isSome unfit
      obtain ⟨⟨i, at_k, found⟩, before⟩ := (firstHolding_eq_some_iff format).1 first
      rw [first] at refused
      cases refused
      exact ⟨k, i, rfl, at_k, found, before⟩
  · rintro ⟨k, i, rfl, at_k, found, before⟩
    have first := (firstHolding_eq_some_iff format).2 ⟨⟨i, at_k, found⟩, before⟩
    have unfit : ¬ Region.accepts defaultMarker (entries ⟨format, true⟩ p) = true := by
      rw [accepts_annotated_iff]
      intro absent
      exact absent i (List.mem_of_getElem? at_k) found
    rw [Patch.validate, if_neg unfit, first]

/-- A literal before an entry, and the parenthesis that begins its comment, make no marker. -/
example :
    let p : Program := ⟨"halt", [⟨0x13, ")"⟩, ⟨0x13, "a )*/) b"⟩, ⟨0x6F, "f(g(x))"⟩], by decide⟩
    Patch.validate (entries ⟨.chisel, true⟩ p) "))" =
      .error (.endMarkerInEntries "))" (some 2)) := by
  decide +kernel

end Encoding

end CoreTrial
