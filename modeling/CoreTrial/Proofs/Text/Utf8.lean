import CoreTrial.Proofs.Text.FirstOccurrence

/-!
# Searching the bytes of a text

In UTF-8 the first byte of a character is no other byte of any character. So the bytes of a mark
stand among those of a text only where the mark itself stands in the text.
-/

set_option autoImplicit false

namespace CoreTrial.Text

/-- The bytes of a mark stand somewhere among these. -/
def OccursInBytes (mark : String) (bytes : ByteArray) : Prop :=
  ∃ before after, bytes = before ++ mark.toUTF8 ++ after

/-- Where the bytes of a text have those of a mark, the text has a character that starts there. -/
theorem isValid_of_occurs {mark s : String} {before after : ByteArray} (filled : mark ≠ "")
    (whole : s.toByteArray = before ++ mark.toByteArray ++ after) :
    String.Pos.Raw.IsValid s ⟨before.size⟩ := by
  have pos : 0 < mark.toByteArray.size := by
    rw [String.size_toByteArray]
    exact Nat.pos_of_ne_zero fun zero => filled (String.utf8ByteSize_eq_zero_iff.1 zero)
  have first := mark.isValidUTF8.isUTF8FirstByte_getElem_zero pos
  have within : (⟨before.size⟩ : String.Pos.Raw) < s.rawEndPos := by
    rw [String.Pos.Raw.lt_iff, String.byteIdx_rawEndPos, ← String.size_toByteArray, whole]
    simp only [ByteArray.size_append]
    omega
  refine String.Pos.Raw.isValid_iff_isUTF8FirstByte.2 (.inr ⟨within, ?_⟩)
  have same : s.getUTF8Byte ⟨before.size⟩ within = mark.toByteArray[0] := by
    unfold String.getUTF8Byte
    simp only [whole, ByteArray.append_assoc]
    rw [ByteArray.getElem_append_right (Nat.le_refl _), ByteArray.getElem_append_left]
    · simp
    · simpa using pos
  rw [same]
  exact first

/-- Where a text has the bytes of a mark, it has the mark itself. -/
theorem exists_append_of_occurs {mark s : String} {before after : ByteArray} (filled : mark ≠ "")
    (whole : s.toByteArray = before ++ mark.toByteArray ++ after) :
    ∃ x y, s.toList = x ++ mark.toList ++ y ∧ (String.ofList x).utf8ByteSize = before.size := by
  obtain ⟨x, y, rfl, start⟩ :=
    String.Pos.Raw.isValid_iff_exists_append.1 (isValid_of_occurs filled whole)
  have size : x.toByteArray.size = before.size := by
    rw [String.size_toByteArray]
    exact congrArg String.Pos.Raw.byteIdx start.symm
  rw [String.toByteArray_append, ByteArray.append_assoc] at whole
  obtain ⟨-, found⟩ := (ByteArray.append_eq_append_iff_of_size_eq_left size).1 whole
  rw [← String.utf8Encode_toList, ← String.utf8Encode_toList] at found
  obtain ⟨z, hz⟩ := List.isPrefix_of_utf8Encode_append_eq_utf8Encode after found.symm
  refine ⟨x.toList, z, ?_, ?_⟩
  · rw [String.toList_append, List.append_assoc, hz]
  · rw [String.ofList_toList, ← String.size_toByteArray, size]

/-- A mark is found in a text where its bytes are found among those of the text. -/
theorem occursInBytes_toUTF8_iff {mark s : String} (filled : mark ≠ "") :
    OccursInBytes mark s.toUTF8 ↔ contains s mark = true := by
  rw [contains, occursIn_iff]
  constructor
  · rintro ⟨before, after, whole⟩
    obtain ⟨x, y, found, -⟩ := exists_append_of_occurs filled whole
    exact ⟨x, y, found.symm⟩
  · rintro ⟨x, y, whole⟩
    refine ⟨x.utf8Encode, y.utf8Encode, ?_⟩
    rw [String.toUTF8_eq_toByteArray, String.toUTF8_eq_toByteArray, ← String.utf8Encode_toList,
      ← String.utf8Encode_toList, ← List.utf8Encode_append, ← List.utf8Encode_append, whole]

end CoreTrial.Text
