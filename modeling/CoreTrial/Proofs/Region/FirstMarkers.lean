import CoreTrial.Proofs.Region.Reinjection
import CoreTrial.Proofs.Text.Offset

/-!
# A text is cut at its first markers

The text is read as a prefix, the start marker, a region, the end marker and a suffix. The start
marker is taken where it stands first, the end marker where it stands first from the end of the
start marker on, and there is no other reason not to cut a text than that one of them is missing.
Offsets count bytes. Each one that is given lies between two characters.
-/

set_option autoImplicit false

namespace CoreTrial

open Text (OccursAt)

/-- A text cut at the start marker at `s` and the end marker at `e`. -/
structure MarkedText.CutAt (m : MarkedText) (start stop content : String) (s e : Nat) : Prop where
  startSpan : m.startSpan = ⟨s, s + start.utf8ByteSize⟩
  bodySpan : m.bodySpan = ⟨s + start.utf8ByteSize, e⟩
  stopSpan : m.stopSpan = ⟨e, e + stop.utf8ByteSize⟩
  /-- No offset lies within a character or past the end. -/
  valid : ∀ i ∈ [s, s + start.utf8ByteSize, e, e + stop.utf8ByteSize],
    String.Pos.Raw.IsValid content ⟨i⟩
  start_bytes : m.startSpan.bytes content = start.toUTF8
  stop_bytes : m.stopSpan.bytes content = stop.toUTF8
  lead_bytes : (⟨0, s + start.utf8ByteSize⟩ : Span).bytes content = (String.ofList m.lead).toUTF8
  body_bytes : m.bodySpan.bytes content = (String.ofList m.body).toUTF8
  tail_bytes : (⟨e, content.utf8ByteSize⟩ : Span).bytes content = (String.ofList m.tail).toUTF8
  whole : String.ofList m.lead ++ String.ofList m.body ++ String.ofList m.tail = content

namespace MarkedText

variable {start stop content : String} {m : MarkedText} {before rest : List Char}

/-- The start marker is missing where it stands at no offset. -/
theorem parse_eq_error_start_iff :
    parse start stop content = .error .start ↔ ∀ i, ¬ OccursAt start content i := by
  rw [← Text.cut?_eq_none_iff_occursAt]
  unfold parse
  cases hs : Text.cut? start.toList content.toList with
  | none => simp
  | some first =>
    cases he : Text.cut? stop.toList first.2 <;> simp [he]

/-- An offset from the region's start on is one in the text after the start marker. -/
theorem occursAt_rest_iff (first : Text.cut? start.toList content.toList = some (before, rest))
    {pattern : String} {i : Nat} :
    OccursAt pattern content (Text.byteLength before + start.utf8ByteSize + i) ↔
      OccursAt pattern (String.ofList rest) i := by
  have whole : content = String.ofList (before ++ start.toList) ++ String.ofList rest := by
    rw [← String.ofList_append, ← Text.eq_of_cut? first, String.ofList_toList]
  have size : (String.ofList (before ++ start.toList)).utf8ByteSize =
      Text.byteLength before + start.utf8ByteSize := by
    rw [Text.utf8ByteSize_ofList, Text.byteLength_append, Text.byteLength_toList]
  rw [whole, ← size, Text.occursAt_append_iff]

/-- The end marker is missing where it stands at no offset from the region's start on. -/
theorem parse_eq_error_stop_iff
    (first : Text.cut? start.toList content.toList = some (before, rest)) :
    parse start stop content = .error .stop ↔
      ∀ i, Text.byteLength before + start.utf8ByteSize ≤ i → ¬ OccursAt stop content i := by
  have missing : parse start stop content = .error .stop ↔ Text.cut? stop.toList rest = none := by
    unfold parse
    rw [first]
    cases he : Text.cut? stop.toList rest <;> simp [he]
  have inRest : Text.cut? stop.toList rest = none ↔
      ∀ i, ¬ OccursAt stop (String.ofList rest) i := by
    rw [← Text.cut?_eq_none_iff_occursAt, String.toList_ofList]
  rw [missing, inRest]
  constructor
  · intro nowhere i le there
    obtain ⟨j, rfl⟩ := Nat.exists_eq_add_of_le le
    exact nowhere j ((occursAt_rest_iff first).1 there)
  · intro nowhere j there
    exact nowhere _ (Nat.le_add_right _ j) ((occursAt_rest_iff first).2 there)

/-- The end marker of a text that is cut stands at the least offset from the region's start on. -/
theorem isLeast_stop (first : Text.cut? start.toList content.toList = some (before, rest))
    {body after : List Char} (second : Text.cut? stop.toList rest = some (body, after)) :
    IsLeast {i | Text.byteLength before + start.utf8ByteSize ≤ i ∧ OccursAt stop content i}
      (Text.byteLength before + start.utf8ByteSize + Text.byteLength body) := by
  rw [← String.toList_ofList (l := rest)] at second
  obtain ⟨there, least⟩ := Text.isLeast_of_cut? second
  refine ⟨⟨Nat.le_add_right _ _, (occursAt_rest_iff first).2 there⟩, ?_⟩
  rintro i ⟨le, at_i⟩
  obtain ⟨j, rfl⟩ := Nat.exists_eq_add_of_le le
  exact Nat.add_le_add_left (least ((occursAt_rest_iff first).1 at_i)) _

/-- The parts of a text that is cut lie one after the other. -/
theorem cutAt_of_parse (parsed : parse start stop content = .ok m) :
    m.CutAt start stop content (Text.byteLength m.before)
      (Text.byteLength m.before + start.utf8ByteSize + Text.byteLength m.body) := by
  have whole := content_of_parse parsed
  obtain ⟨⟨hs, he⟩, -⟩ := parse_eq_ok_iff.1 parsed
  have parts : m.lead ++ m.body ++ m.stop ++ m.after = content.toList := by
    rw [whole, MarkedText.content, tail, List.append_assoc]
  have pastStop : m.lead ++ m.body ++ m.stop <+: content.toList := ⟨_, parts⟩
  have pastBody : m.lead ++ m.body <+: content.toList := (List.prefix_append _ _).trans pastStop
  have pastStart : m.lead <+: content.toList := (List.prefix_append _ _).trans pastBody
  have toStart : m.before <+: content.toList := (List.prefix_append _ m.start).trans pastStart
  -- The offsets are the lengths of these parts.
  have leadLength : Text.byteLength m.before + start.utf8ByteSize = Text.byteLength m.lead := by
    rw [lead, hs, Text.byteLength_append, Text.byteLength_toList]
  have bodyLength : Text.byteLength m.lead + Text.byteLength m.body =
      Text.byteLength (m.lead ++ m.body) := (Text.byteLength_append _ _).symm
  have stopLength : Text.byteLength (m.lead ++ m.body) + stop.utf8ByteSize =
      Text.byteLength (m.lead ++ m.body ++ m.stop) := by
    rw [Text.byteLength_append _ m.stop, he, Text.byteLength_toList]
  rw [leadLength, bodyLength]
  refine
    { startSpan := by rw [leadLength]; rfl
      bodySpan := by rw [leadLength]; rfl
      stopSpan := by rw [stopLength]; rfl
      valid := ?_
      start_bytes := ?_
      stop_bytes := ?_
      lead_bytes := ?_
      body_bytes := Text.bytes_of_prefix pastBody
      tail_bytes := ?_
      whole := ?_ }
  · simp only [leadLength, stopLength, List.forall_mem_cons, List.not_mem_nil, false_imp_iff,
      implies_true, and_true]
    exact ⟨Text.isValid_of_prefix toStart, Text.isValid_of_prefix pastStart,
      Text.isValid_of_prefix pastBody, Text.isValid_of_prefix pastStop⟩
  · rw [← String.ofList_toList (s := start), ← hs]
    exact Text.bytes_of_prefix pastStart
  · rw [← String.ofList_toList (s := stop), ← he]
    exact Text.bytes_of_prefix pastStop
  · rw [leadLength]
    exact Text.bytes_of_prefix (x := []) pastStart
  · have toEnd : m.lead ++ m.body ++ m.tail <+: content.toList := by
      rw [whole]
      exact List.prefix_rfl
    rw [← Text.byteLength_toList content, whole]
    exact Text.bytes_of_prefix toEnd
  · rw [← String.ofList_append, ← String.ofList_append, ← String.ofList_toList (s := content),
      whole]
    rfl

end MarkedText

namespace Patch

variable (content start stop : String) (path : Path)

theorem parseRegion_eq_error_start_iff :
    parseRegion content start stop path = .error (.markerNotFound .start start path) ↔
      MarkedText.parse start stop content = .error .start := by
  unfold parseRegion
  split <;> simp_all

theorem parseRegion_eq_error_stop_iff :
    parseRegion content start stop path = .error (.markerNotFound .stop stop path) ↔
      MarkedText.parse start stop content = .error .stop := by
  unfold parseRegion
  split <;> simp_all

/-- **A text is cut at its first markers.** It has no start marker for the cut exactly if this
stands at no offset. Otherwise, with `s` the least offset of the start marker, it has no end marker
exactly if this stands at no offset from the end of the start marker on; and otherwise, with `e`
the least of these, it is cut at `s` and `e`. -/
theorem cut_at_first_markers :
    (parseRegion content start stop path = .error (.markerNotFound .start start path) ↔
      ∀ i, ¬ OccursAt start content i) ∧
    ∀ s, IsLeast {i | OccursAt start content i} s →
      (parseRegion content start stop path = .error (.markerNotFound .stop stop path) ↔
        ∀ i, s + start.utf8ByteSize ≤ i → ¬ OccursAt stop content i) ∧
      ∀ e, IsLeast {i | s + start.utf8ByteSize ≤ i ∧ OccursAt stop content i} e →
        ∃ m, parseRegion content start stop path = .ok m ∧ m.CutAt start stop content s e := by
  rw [parseRegion_eq_error_start_iff]
  refine ⟨MarkedText.parse_eq_error_start_iff, fun s leastStart => ?_⟩
  obtain ⟨before, rest, first⟩ :
      ∃ before rest, Text.cut? start.toList content.toList = some (before, rest) := by
    cases h : Text.cut? start.toList content.toList with
    | none => exact absurd leastStart.1 (Text.cut?_eq_none_iff_occursAt.1 h s)
    | some p => exact ⟨p.1, p.2, rfl⟩
  obtain rfl := leastStart.unique (Text.isLeast_of_cut? first)
  rw [parseRegion_eq_error_stop_iff]
  refine ⟨MarkedText.parse_eq_error_stop_iff first, fun e leastStop => ?_⟩
  obtain ⟨body, after, second⟩ :
      ∃ body after, Text.cut? stop.toList rest = some (body, after) := by
    cases h : Text.cut? stop.toList rest with
    | none =>
      refine absurd leastStop.1.2 ((MarkedText.parse_eq_error_stop_iff first).1 ?_ e leastStop.1.1)
      simp only [MarkedText.parse, first, h]
    | some p => exact ⟨p.1, p.2, rfl⟩
  obtain rfl := leastStop.unique (MarkedText.isLeast_stop first second)
  have parsed : MarkedText.parse start stop content =
      .ok ⟨before, start.toList, body, stop.toList, after⟩ :=
    MarkedText.parse_eq_ok_iff.2 ⟨⟨rfl, rfl⟩, rest, first, second⟩
  exact ⟨_, parseRegion_eq_ok_iff.2 parsed, MarkedText.cutAt_of_parse parsed⟩

/-- A start marker that overlaps itself and that holds the end marker. The text has both of them
several times; the end marker that counts is the first one behind the first start marker. -/
theorem cut_at_overlapping_markers :
    IsLeast {i | OccursAt "éaé" "xéaéaéaéy" i} 1 ∧
      IsLeast {i | 1 + "éaé".utf8ByteSize ≤ i ∧ OccursAt "é" "xéaéaéaéy" i} 7 ∧
      ∃ m, parseRegion "xéaéaéaéy" "éaé" "é" ⟨"rom"⟩ = .ok m ∧
        m.CutAt "éaé" "é" "xéaéaéaéy" 1 7 := by
  have leastStart : IsLeast {i | OccursAt "éaé" "xéaéaéaéy" i} 1 := by
    refine ⟨by decide, fun i there => Nat.one_le_iff_ne_zero.2 ?_⟩
    rintro rfl
    exact absurd there (by decide)
  have leastStop : IsLeast {i | 1 + "éaé".utf8ByteSize ≤ i ∧ OccursAt "é" "xéaéaéaéy" i} 7 := by
    refine ⟨by decide, ?_⟩
    rintro i ⟨le, there⟩
    have size : 1 + "éaé".utf8ByteSize = 6 := by decide
    refine Nat.succ_le_of_lt (lt_of_le_of_ne (size ▸ le) ?_)
    rintro rfl
    exact absurd there (by decide)
  obtain ⟨-, cut⟩ := cut_at_first_markers "xéaéaéaéy" "éaé" "é" ⟨"rom"⟩
  exact ⟨leastStart, leastStop, (cut 1 leastStart).2 7 leastStop⟩

end Patch

end CoreTrial
