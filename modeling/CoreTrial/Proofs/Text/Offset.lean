import CoreTrial.Region
import CoreTrial.Proofs.Text.Utf8
import Mathlib.Order.Bounds.Basic

/-!
# Byte offsets of a pattern

A pattern stands in a text at an offset when its bytes stand there among those of the text. The
first of these offsets is where `cut?` cuts the text, which is between two characters although an
offset may be any number of bytes.
-/

set_option autoImplicit false

namespace CoreTrial

/-- The bytes of a text from the first of a span on, up to the first past it. -/
def Span.bytes (sp : Span) (s : String) : ByteArray :=
  s.toUTF8.extract sp.first sp.past

namespace Text

/-- The bytes of `pattern` stand in those of `s`, from the byte `offset` on. -/
def OccursAt (pattern s : String) (offset : Nat) : Prop :=
  offset + pattern.utf8ByteSize ≤ s.utf8ByteSize ∧
    (⟨offset, offset + pattern.utf8ByteSize⟩ : Span).bytes s = pattern.toUTF8

instance (pattern s : String) (offset : Nat) : Decidable (OccursAt pattern s offset) :=
  inferInstanceAs (Decidable (_ ∧ _))

theorem byteLength_cons (c : Char) (s : List Char) :
    byteLength (c :: s) = c.utf8Size + byteLength s := by
  have step (n : Nat) : s.foldl (fun n c => n + c.utf8Size) n = n + byteLength s := by
    unfold byteLength
    induction s generalizing n with
    | nil => rfl
    | cons d s ih => rw [List.foldl_cons, List.foldl_cons, ih, ih (0 + _)]; omega
  rw [byteLength, List.foldl_cons, step, Nat.zero_add]

theorem byteLength_append (s t : List Char) :
    byteLength (s ++ t) = byteLength s + byteLength t := by
  induction s with
  | nil => exact (Nat.zero_add _).symm
  | cons c s ih => rw [List.cons_append, byteLength_cons, byteLength_cons, ih, Nat.add_assoc]

theorem size_utf8Encode (s : List Char) : s.utf8Encode.size = byteLength s := by
  induction s with
  | nil => rfl
  | cons c s ih =>
    rw [List.utf8Encode_cons, ByteArray.size_append, ih, byteLength_cons, List.utf8Encode_singleton,
      List.size_toByteArray, String.length_utf8EncodeChar]

theorem byteLength_toList (s : String) : byteLength s.toList = s.utf8ByteSize := by
  rw [← size_utf8Encode, String.utf8Encode_toList, String.size_toByteArray]

theorem utf8ByteSize_ofList (s : List Char) : (String.ofList s).utf8ByteSize = byteLength s := by
  rw [← byteLength_toList, String.toList_ofList]

variable {pattern s : String} {x y : List Char}

/-- A span of a text that starts and ends between characters holds what stands there. -/
theorem bytes_of_prefix (h : x ++ y <+: s.toList) :
    (⟨byteLength x, byteLength (x ++ y)⟩ : Span).bytes s = (String.ofList y).toUTF8 := by
  obtain ⟨z, whole⟩ := h
  rw [Span.bytes, String.toUTF8_eq_toByteArray, String.toUTF8_eq_toByteArray,
    ← String.utf8Encode_toList, ← whole, String.toByteArray_ofList, List.append_assoc,
    List.utf8Encode_append, List.utf8Encode_append, byteLength_append,
    ← size_utf8Encode, ← size_utf8Encode]
  have here := ByteArray.extract_append_size_add
    (a := x.utf8Encode) (b := y.utf8Encode ++ z.utf8Encode) (i := 0) (j := y.utf8Encode.size)
  rw [Nat.add_zero] at here
  rw [here]
  exact ByteArray.extract_append_eq_left rfl

theorem isValid_of_prefix (h : x <+: s.toList) : String.Pos.Raw.IsValid s ⟨byteLength x⟩ := by
  obtain ⟨y, whole⟩ := h
  refine String.Pos.Raw.isValid_iff_exists_append.2 ⟨.ofList x, .ofList y, ?_, ?_⟩
  · rw [← String.ofList_append, whole, String.ofList_toList]
  · rw [← utf8ByteSize_ofList]
    rfl

theorem occursAt_of_append (whole : s.toList = x ++ pattern.toList ++ y) :
    OccursAt pattern s (byteLength x) := by
  have past : byteLength x + pattern.utf8ByteSize = byteLength (x ++ pattern.toList) := by
    rw [byteLength_append, byteLength_toList]
  constructor
  · rw [past, ← byteLength_toList s, whole, byteLength_append (x ++ _)]
    exact Nat.le_add_right _ _
  · rw [past, bytes_of_prefix ⟨y, whole.symm⟩, String.ofList_toList]

/-- Where the bytes of a pattern stand, the pattern itself does. -/
theorem exists_append_of_occursAt {offset : Nat} (filled : pattern ≠ "")
    (h : OccursAt pattern s offset) :
    ∃ x y, s.toList = x ++ pattern.toList ++ y ∧ byteLength x = offset := by
  obtain ⟨within, here⟩ := h
  have whole : s.toByteArray = s.toByteArray.extract 0 offset ++ pattern.toByteArray
      ++ s.toByteArray.extract (offset + pattern.utf8ByteSize) s.toByteArray.size := by
    have middle : s.toByteArray.extract offset (offset + pattern.utf8ByteSize) =
      pattern.toByteArray := here
    rw [← middle, ← ByteArray.extract_eq_extract_append_extract _ (Nat.zero_le _) (by omega),
      ← ByteArray.extract_eq_extract_append_extract _ (Nat.zero_le _)
        (by rw [String.size_toByteArray]; exact within), ByteArray.extract_zero_size]
  obtain ⟨x, y, found, size⟩ := exists_append_of_occurs filled whole
  refine ⟨x, y, found, ?_⟩
  rw [← utf8ByteSize_ofList, size, ByteArray.size_extract,
    String.size_toByteArray]
  omega

/-- A text is cut at the least offset of the pattern. -/
theorem isLeast_of_cut? (h : cut? pattern.toList s.toList = some (x, y)) :
    IsLeast {i | OccursAt pattern s i} (byteLength x) := by
  obtain ⟨whole, least⟩ := cut?_eq_some_iff.1 h
  refine ⟨occursAt_of_append whole, fun i there => ?_⟩
  by_cases filled : pattern = ""
  · -- The empty pattern also stands within characters, but its first place is the start.
    have start := least [] s.toList (by simp [filled])
    rw [List.length_nil, Nat.le_zero, List.length_eq_zero_iff] at start
    exact start ▸ Nat.zero_le i
  · obtain ⟨x', y', found, rfl⟩ := exists_append_of_occursAt filled there
    have earlier : x <+: s.toList := ⟨_, by rw [whole, List.append_assoc]⟩
    have later : x' <+: s.toList := ⟨_, by rw [found, List.append_assoc]⟩
    have isPrefix : x <+: x' := List.prefix_of_prefix_length_le earlier later (least x' y' found)
    obtain ⟨z, rfl⟩ := isPrefix
    rw [byteLength_append]
    exact Nat.le_add_right _ _

theorem cut?_eq_none_iff_occursAt :
    cut? pattern.toList s.toList = none ↔ ∀ i, ¬ OccursAt pattern s i := by
  constructor
  · intro missing i there
    by_cases filled : pattern = ""
    · have found := cut?_append_self pattern.toList s.toList
      rw [filled, String.toList_empty, List.nil_append] at found
      rw [filled, String.toList_empty, found] at missing
      cases missing
    · obtain ⟨x, y, found, -⟩ := exists_append_of_occursAt filled there
      have occurs := occursIn_iff.2 (⟨x, y, found.symm⟩ : pattern.toList <:+: s.toList)
      rw [occursIn, missing] at occurs
      cases occurs
  · intro nowhere
    cases h : cut? pattern.toList s.toList with
    | none => rfl
    | some p => exact absurd (isLeast_of_cut? h).1 (nowhere _)

/-- What stands before a part of a text shifts the offsets in it. -/
theorem occursAt_append_iff {before rest : String} {i : Nat} :
    OccursAt pattern (before ++ rest) (before.utf8ByteSize + i) ↔ OccursAt pattern rest i := by
  have same : Span.bytes
      ⟨before.utf8ByteSize + i, before.utf8ByteSize + i + pattern.utf8ByteSize⟩ (before ++ rest) =
        Span.bytes ⟨i, i + pattern.utf8ByteSize⟩ rest := by
    rw [Span.bytes, String.toUTF8_eq_toByteArray, String.toByteArray_append, Nat.add_assoc,
      ← String.size_toByteArray, ByteArray.extract_append_size_add]
    rfl
  rw [OccursAt, OccursAt, same, String.utf8ByteSize_append, Nat.add_assoc, Nat.add_le_add_iff_left]

end Text

end CoreTrial
