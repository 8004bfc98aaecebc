import CoreTrial.Proofs.Encoding.Readback

/-!
# Comments in a language that nests them

Where block comments nest, a comment is over once as many of them are closed as were opened. The
end of a comment is broken up inside an annotation, so an annotation is closed by its own end alone;
but what it opens is not. It ends where it should exactly if its text opens no comment
(`annotation_closes_iff`).
-/

set_option autoImplicit false

namespace CoreTrial

namespace Encoding

/-- How far a text with nested comments is read: how many of them are open, and the last character,
unless it is part of a mark that was read. -/
structure Nesting where
  depth : Nat
  last : Option Char
  deriving DecidableEq, Repr

namespace Nesting

/-- Reads one character. -/
def next (n : Nesting) (c : Char) : Nesting :=
  if n.last = some '/' ∧ c = '*' then ⟨n.depth + 1, none⟩
  else if n.last = some '*' ∧ c = '/' then ⟨n.depth - 1, none⟩
  else ⟨n.depth, some c⟩

/-- Reads a text. -/
def after (n : Nesting) (s : List Char) : Nesting := s.foldl next n

/-- Nothing is open, and nothing was read. -/
def outside : Nesting := ⟨0, none⟩

/-- No mark has begun. -/
def Settled (n : Nesting) : Prop := n.last ≠ some '/' ∧ n.last ≠ some '*'

end Nesting

/-- Neither slash nor star. -/
def Plain (s : List Char) : Prop := ∀ c ∈ s, c ≠ '/' ∧ c ≠ '*'

/-- How many comments are open at the end of a text. -/
def openAfter (s : List Char) : Nat := (Nesting.outside.after s).depth

/-- How often a text opens a comment: at how many places a star follows a slash. -/
def openings : List Char → Nat
  | [] => 0
  | c :: s => openings s + if c = '/' ∧ s.head? = some '*' then 1 else 0

theorem openings_eq_zero_iff {s : List Char} : openings s = 0 ↔ ¬ "/*".toList <:+: s := by
  change _ ↔ ¬ ['/', '*'] <:+: s
  induction s with
  | nil => simp [openings]
  | cons c s ih =>
    rw [openings, Nat.add_eq_zero_iff, ih, List.infix_cons_iff, not_or, and_comm]
    refine and_congr_left fun _ => ?_
    cases s with
    | nil => simp
    | cons d s => simp [eq_comm]

namespace Nesting

variable {n : Nesting} {c : Char} {s : List Char}

theorem after_append (n : Nesting) (s t : List Char) : n.after (s ++ t) = (n.after s).after t :=
  List.foldl_append

theorem next_of_plain (n : Nesting) (slash : c ≠ '/') (star : c ≠ '*') :
    n.next c = ⟨n.depth, some c⟩ := by
  simp [next, slash, star]

/-- Plain text opens and closes nothing. -/
theorem depth_after_plain (plain : Plain s) : (n.after s).depth = n.depth := by
  induction s generalizing n with
  | nil => rfl
  | cons c s ih =>
    obtain ⟨slash, star⟩ := plain c List.mem_cons_self
    have first := next_of_plain n slash star
    change ((n.next c).after s).depth = n.depth
    rw [ih fun d mem => plain d (List.mem_cons_of_mem _ mem), first]

/-- Where no comment ends, as many more are open as the text has opened. -/
theorem depth_after_of_no_end (no_end : ¬ "*/".toList <:+: s)
    (start : n.last = some '*' → s.head? ≠ some '/') :
    (n.after s).depth = n.depth + openings s +
      if n.last = some '/' ∧ s.head? = some '*' then 1 else 0 := by
  induction s generalizing n with
  | nil => simp [after, openings]
  | cons c s ih =>
    have rest : ¬ "*/".toList <:+: s := fun h => no_end (h.trans (List.suffix_cons c s).isInfix)
    have apart : c = '*' → s.head? ≠ some '/' := by
      rintro rfl slash
      obtain ⟨t, rfl⟩ := List.head?_eq_some_iff.1 slash
      exact no_end ⟨[], t, rfl⟩
    change ((n.next c).after s).depth = _
    by_cases opens : n.last = some '/' ∧ c = '*'
    · have first : n.next c = ⟨n.depth + 1, none⟩ := if_pos opens
      rw [first, ih (n := ⟨n.depth + 1, none⟩) rest (by simp)]
      simp [openings, opens.1, opens.2]
      omega
    · have closes : ¬ (n.last = some '*' ∧ c = '/') := fun h => start h.1 (congrArg some h.2)
      have first : n.next c = ⟨n.depth, some c⟩ := by simp only [next, if_neg opens, if_neg closes]
      rw [first, ih rest fun star => apart (Option.some.inj star)]
      simp [openings, opens]
      omega

/-- A mark is opened where none has begun. -/
theorem after_open (settled : n.Settled) : n.after "/*".toList = ⟨n.depth + 1, none⟩ := by
  change (n.next '/').next '*' = _
  simp [next, settled.1, settled.2]

theorem settled_after_plain (settled : n.Settled) (plain : Plain s) : (n.after s).Settled := by
  induction s generalizing n with
  | nil => exact settled
  | cons c s ih =>
    obtain ⟨slash, star⟩ := plain c List.mem_cons_self
    have first := next_of_plain n slash star
    change ((n.next c).after s).Settled
    refine ih ?_ fun d mem => plain d (List.mem_cons_of_mem _ mem)
    rw [first]
    exact ⟨fun h => slash (Option.some.inj h), fun h => star (Option.some.inj h)⟩

end Nesting

theorem plain_iff {s : List Char} : Plain s ↔ s.all (fun c => c != '/' && c != '*') = true := by
  simp [Plain]

theorem Plain.append {s t : List Char} (hs : Plain s) (ht : Plain t) : Plain (s ++ t) :=
  fun c mem => (List.mem_append.1 mem).elim (hs c) (ht c)

theorem openings_append_space (s t : List Char) :
    openings (s ++ ' ' :: t) = openings s + openings t := by
  induction s with
  | nil => simp [openings]
  | cons c s ih =>
    rw [List.cons_append, openings, openings, ih]
    cases s with
    | nil => simp [openings]
    | cons d s => simp; omega

/-- Breaking up ends of comments leaves what opens one. -/
theorem openings_breakCommentEnds (s : List Char) :
    openings (breakCommentEnds s) = openings s := by
  fun_induction breakCommentEnds s with
  | case1 rest ih => simp [openings, ih, head?_breakCommentEnds]
  | case2 c rest _ ih => rw [openings, openings, ih, head?_breakCommentEnds]
  | case3 => rfl

/-- What stands between the first mark of a block comment and its last character. -/
def commentInside (comment : List Char) : List Char :=
  ' ' :: breakCommentEnds comment ++ " *".toList

theorem blockComment_eq (comment : List Char) :
    blockComment comment = "/*".toList ++ (commentInside comment ++ ['/']) := by
  simp [blockComment, commentInside]

theorem openings_commentInside (comment : List Char) :
    openings (commentInside comment) = openings comment := by
  change openings ([] ++ ' ' :: (breakCommentEnds comment ++ ' ' :: ['*'])) = _
  rw [openings_append_space, openings_append_space, openings_breakCommentEnds]
  simp [openings]

/-- A block comment has no end before its own. -/
theorem no_end_commentInside (comment : List Char) :
    ¬ "*/".toList <:+: commentInside comment := by
  intro found
  rcases List.infix_cons_iff.1 found with ⟨t, first⟩ | ⟨x, y, whole⟩
  · cases first
  · have least := (Text.cut?_eq_some_iff.1 (cut?_breakCommentEnds comment [])).2 x (y ++ ['/'])
    have closed : breakCommentEnds comment ++ " */".toList ++ [] =
        x ++ "*/".toList ++ (y ++ ['/']) := by
      rw [← List.append_assoc, whole]
      simp
    have le := least closed
    have length := congrArg List.length whole
    simp at le length
    omega

/-- Within a block comment as many are open as it and its text have opened. -/
theorem depth_within_comment {n : Nesting} (settled : n.Settled) {comment s : List Char}
    (within : s <+: commentInside comment) :
    (n.after ("/*".toList ++ s)).depth = n.depth + 1 + openings s := by
  have no_end : ¬ "*/".toList <:+: s :=
    fun found => no_end_commentInside comment (found.trans within.isInfix)
  rw [Nesting.after_append, Nesting.after_open settled,
    Nesting.depth_after_of_no_end no_end (by simp)]
  simp

/-- The end of a block comment closes one comment, whatever the text has opened. -/
theorem after_blockComment {n : Nesting} (settled : n.Settled) (comment : List Char) :
    n.after (blockComment comment) = ⟨n.depth + openings comment, none⟩ := by
  have depth := depth_within_comment settled (List.prefix_refl (commentInside comment))
  have last : (n.after ("/*".toList ++ commentInside comment)).last = some '*' := by
    rw [commentInside, ← List.append_assoc, Nesting.after_append]
    simp [Nesting.after, Nesting.next]
  rw [blockComment_eq, ← List.append_assoc, Nesting.after_append]
  change (n.after ("/*".toList ++ commentInside comment)).next '/' = _
  simp only [Nesting.next, last, depth, openings_commentInside]
  simp

theorem plain_literal (format : EncodingFormat) (w : UInt32) : Plain (literal format w) := by
  have digits : Plain (Number.hexWord .upper w) := by
    intro c mem
    have alphanumeric := Number.isAlphanum_of_mem_hexPlaces .upper mem
    constructor
    · rintro rfl
      cases alphanumeric
    · rintro rfl
      cases alphanumeric
  have marks : Plain (literalOpening format) ∧ Plain (literalClosing format) := by
    rw [plain_iff, plain_iff]
    cases format <;> decide
  rw [literal_eq]
  exact (marks.1.append digits).append marks.2

/-- A block is set off from its literal by a space. -/
theorem plain_literal_space (format : EncodingFormat) (w : UInt32) :
    Plain (literal format w ++ [' ']) :=
  (plain_literal format w).append (plain_iff.2 rfl)

/-- An annotated instruction is its literal and, where there is something to say, a comment. -/
theorem toList_entry (format : EncodingFormat) (i : Instruction) :
    (entry ⟨format, true⟩ i).toList = literal format i.word ++
      if i.comment = "" then [] else ' ' :: blockComment i.comment.toList := by
  rw [entry, String.toList_ofList]
  by_cases nothing : i.comment = ""
  · simp [nothing]
  · simp [nothing]

/-- After an annotated instruction those comments are open that its text has opened. -/
theorem after_entry {n : Nesting} (settled : n.Settled) (format : EncodingFormat)
    (i : Instruction) :
    (n.after (entry ⟨format, true⟩ i).toList).depth = n.depth + openings i.comment.toList ∧
      (n.after (entry ⟨format, true⟩ i).toList).Settled := by
  rw [toList_entry, Nesting.after_append]
  by_cases nothing : i.comment = ""
  · rw [if_pos nothing, nothing]
    change (n.after (literal format i.word)).depth = n.depth ∧
      (n.after (literal format i.word)).Settled
    have plain := plain_literal format i.word
    exact ⟨Nesting.depth_after_plain plain, Nesting.settled_after_plain settled plain⟩
  · have plain := plain_literal_space format i.word
    have start := Nesting.settled_after_plain settled plain
    rw [if_neg nothing, ← Nesting.after_append]
    change (n.after (literal format i.word ++ ([' '] ++ blockComment i.comment.toList))).depth = _ ∧
      (n.after (literal format i.word ++ ([' '] ++ blockComment i.comment.toList))).Settled
    rw [← List.append_assoc, Nesting.after_append, after_blockComment start,
      Nesting.depth_after_plain plain]
    exact ⟨rfl, nofun, nofun⟩

/-- After some entries those comments are open that their texts have opened. -/
theorem after_join {n : Nesting} (settled : n.Settled) (format : EncodingFormat)
    (is : List Instruction) :
    let s := Text.join Region.separator (is.map fun i => (entry ⟨format, true⟩ i).toList)
    (n.after s).depth = n.depth + (is.map fun i => openings i.comment.toList).sum ∧
      (n.after s).Settled := by
  induction is generalizing n with
  | nil => exact ⟨rfl, settled⟩
  | cons i is ih =>
    obtain ⟨depth, rest⟩ := after_entry settled format i
    cases is with
    | nil => simpa [Text.join] using ⟨depth, rest⟩
    | cons j is =>
      have between : Plain Region.separator := plain_iff.2 rfl
      have next := ih (Nesting.settled_after_plain rest between)
      simp only [List.map_cons, Text.join] at next ⊢
      rw [Nesting.after_append, Nesting.after_append]
      rw [Nesting.depth_after_plain between, depth] at next
      exact ⟨by rw [next.1]; simp; omega, next.2⟩

/-- What is read of an annotated instruction that has something to say. -/
structure Annotated (format : EncodingFormat) (i : Instruction) : Prop where
  parts : (entry ⟨format, true⟩ i).toList =
    literal format i.word ++ ' ' :: blockComment i.comment.toList
  marks : "/*".toList <+: blockComment i.comment.toList ∧
    "*/".toList <:+ blockComment i.comment.toList
  /-- No comment is open before the block. -/
  before : ∀ s, s <+: literal format i.word ++ [' '] → openAfter s = 0
  /-- From the first mark of the block to its last character one is. -/
  within : ∀ s, s <+: blockComment i.comment.toList → 2 ≤ s.length →
    s ≠ blockComment i.comment.toList → 0 < openAfter (literal format i.word ++ ' ' :: s)
  /-- At its end those are left that the text has opened. -/
  ends : openAfter (entry ⟨format, true⟩ i).toList = openings i.comment.toList

theorem settled_outside : Nesting.outside.Settled := ⟨nofun, nofun⟩

theorem annotated (format : EncodingFormat) {i : Instruction} (filled : i.comment ≠ "") :
    Annotated format i := by
  have plain := plain_literal_space format i.word
  constructor
  · rw [toList_entry, if_neg filled]
  · constructor
    · exact ⟨_, (blockComment_eq i.comment.toList).symm⟩
    · exact ⟨"/* ".toList ++ breakCommentEnds i.comment.toList ++ [' '], by simp [blockComment]⟩
  · intro s before
    exact Nesting.depth_after_plain fun c mem => plain c (before.subset mem)
  · intro s within long proper
    rw [blockComment_eq] at within proper
    obtain ⟨t, rfl⟩ : "/*".toList <+: s :=
      List.prefix_of_prefix_length_le (List.prefix_append _ _) within long
    have inside : t <+: commentInside i.comment.toList := by
      rcases List.prefix_concat_iff.1 ((List.prefix_append_right_inj _).1 within) with same | inside
      · exact absurd (congrArg _ same) proper
      · exact inside
    have start := Nesting.settled_after_plain settled_outside plain
    have depth := depth_within_comment start inside
    rw [openAfter, List.append_cons, Nesting.after_append, depth]
    omega
  · exact (after_entry settled_outside format i).1.trans (Nat.zero_add _)

/-- The text of a region up to and with its first entries. -/
def regionUpTo (format : EncodingFormat) (p : Program) (k : Nat) : List Char :=
  Region.opening ++
    Text.join Region.separator (((entries ⟨format, true⟩ p).take k).map String.toList)

/-- After any entries of a region those comments are open that their texts have opened. -/
theorem openAfter_regionUpTo (format : EncodingFormat) (p : Program) (k : Nat) :
    openAfter (regionUpTo format p k) =
      ((p.instructions.take k).map fun i => openings i.comment.toList).sum := by
  have opening : Plain Region.opening := plain_iff.2 rfl
  have start := Nesting.settled_after_plain settled_outside opening
  have joined := after_join start format (p.instructions.take k)
  have texts : ((entries ⟨format, true⟩ p).take k).map String.toList =
      (p.instructions.take k).map fun i => (entry ⟨format, true⟩ i).toList := by
    rw [entries, List.map_take, List.map_map, List.map_take]
    rfl
  rw [openAfter, regionUpTo, Nesting.after_append, texts]
  rw [Nesting.depth_after_plain opening] at joined
  exact joined.1.trans (Nat.zero_add _)

theorem openAfter_render (format : EncodingFormat) (p : Program) :
    openAfter (Region.render (entries ⟨format, true⟩ p)) =
      (p.instructions.map fun i => openings i.comment.toList).sum := by
  have closing : Plain Region.closing := plain_iff.2 rfl
  have whole : Region.render (entries ⟨format, true⟩ p) =
      regionUpTo format p p.instructions.length ++ Region.closing := by
    rw [regionUpTo, List.take_of_length_le (by simp [entries]), Region.render]
  rw [whole, openAfter, Nesting.after_append, Nesting.depth_after_plain closing]
  have upTo := openAfter_regionUpTo format p p.instructions.length
  rwa [List.take_length] at upTo

theorem sum_openings_eq_zero_iff (is : List Instruction) :
    (is.map fun i => openings i.comment.toList).sum = 0 ↔
      ∀ i ∈ is, ¬ "/*".toList <:+: i.comment.toList := by
  rw [List.sum_eq_zero_iff_forall_eq_nat, List.forall_mem_map]
  exact forall₂_congr fun i _ => openings_eq_zero_iff

/-- **An annotation ends with its entry exactly if its text opens no comment.** In a language that
nests comments the block of an annotated instruction is open from its first mark to its last
character, whatever ends of comments the text has; after it those are open that the text has opened.
So the separators, the later entries and what follows the region stand outside all comments exactly
where none of the texts before has the mark that opens one. -/
theorem annotation_closes_iff (format : EncodingFormat) :
    (∀ i : Instruction,
      (i.comment = "" → (entry ⟨format, true⟩ i).toList = literal format i.word) ∧
      (i.comment ≠ "" → Annotated format i) ∧
      (openAfter (entry ⟨format, true⟩ i).toList = 0 ↔ ¬ "/*".toList <:+: i.comment.toList)) ∧
    ∀ p : Program,
      (∀ k, openAfter (regionUpTo format p k) = 0 ↔
        ∀ i ∈ p.instructions.take k, ¬ "/*".toList <:+: i.comment.toList) ∧
      (openAfter (Region.render (entries ⟨format, true⟩ p)) = 0 ↔
        ∀ i ∈ p.instructions, ¬ "/*".toList <:+: i.comment.toList) := by
  constructor
  · intro i
    refine ⟨fun nothing => ?_, fun filled => annotated format filled, ?_⟩
    · rw [toList_entry, if_pos nothing, List.append_nil]
    · rw [openAfter, (after_entry settled_outside format i).1]
      exact (Nat.zero_add _).symm ▸ openings_eq_zero_iff
  · intro p
    constructor
    · intro k
      rw [openAfter_regionUpTo]
      exact sum_openings_eq_zero_iff _
    · rw [openAfter_render]
      exact sum_openings_eq_zero_iff _

/-- The annotation of a halt closes where it should, ends of comments in it or not. -/
theorem halt_annotation_closes :
    let i : Instruction := ⟨0x0000006F, "halt */ oops"⟩
    i.comment ≠ "" ∧ Annotated .chisel i ∧ openAfter (entry ⟨.chisel, true⟩ i).toList = 0 := by
  have filled : ("halt */ oops" : String) ≠ "" := by decide
  obtain ⟨-, annotated, closes⟩ :=
    (annotation_closes_iff .chisel).1 ⟨0x0000006F, "halt */ oops"⟩
  refine ⟨filled, annotated filled, closes.2 ?_⟩
  rw [← openings_eq_zero_iff]
  decide +kernel

/-- A text that opens a comment leaves it open at the end of its entry, and of the region. -/
theorem opened_comment_stays_open :
    let i : Instruction := ⟨0x0000006F, "halt /* oops"⟩
    let p : Program := ⟨"halt", [i], by decide⟩
    entry ⟨.chisel, true⟩ i = "\"h0000006F\".U(32.W) /* halt /* oops */" ∧
      openAfter (entry ⟨.chisel, true⟩ i).toList = 1 ∧
      openAfter (Region.render (entries ⟨.chisel, true⟩ p)) = 1 := by
  decide +kernel

end Encoding

end CoreTrial
