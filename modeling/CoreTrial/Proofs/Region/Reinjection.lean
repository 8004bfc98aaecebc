import CoreTrial.Patch
import CoreTrial.Proofs.Text.FirstOccurrence

/-!
# Injecting again

A text with entries in its region can be cut again at the same place exactly when the entries are
fit for the region. The start marker is found where it was, since all text up to its end is kept.
The end marker is looked for from the region's start, and whether it is found at the region's end
depends on the region and the marker alone.
-/

set_option autoImplicit false

namespace CoreTrial

namespace MarkedText

variable {start stop content : String} {m : MarkedText}

/-- A text is cut at the first start marker, and what follows at the first end marker. -/
theorem parse_eq_ok_iff :
    parse start stop content = .ok m ↔
      (m.start = start.toList ∧ m.stop = stop.toList) ∧ ∃ rest,
        Text.cut? start.toList content.toList = some (m.before, rest) ∧
          Text.cut? stop.toList rest = some (m.body, m.after) := by
  unfold parse
  cases hs : Text.cut? start.toList content.toList with
  | none => simp
  | some first =>
    obtain ⟨before, rest⟩ := first
    cases he : Text.cut? stop.toList rest with
    | none =>
      simp only [he, reduceCtorEq, Option.some.injEq, Prod.mk.injEq, false_iff]
      rintro ⟨-, r, ⟨-, rfl⟩, h⟩
      rw [he] at h
      cases h
    | some second =>
      obtain ⟨body, after⟩ := second
      obtain ⟨mb, ms, mr, me, ma⟩ := m
      simp only [he, Except.ok.injEq, mk.injEq, Option.some.injEq, Prod.mk.injEq]
      constructor
      · rintro ⟨rfl, rfl, rfl, rfl, rfl⟩
        exact ⟨⟨rfl, rfl⟩, rest, ⟨rfl, rfl⟩, by rw [he]⟩
      · rintro ⟨⟨rfl, rfl⟩, r, ⟨rfl, rfl⟩, h⟩
        rw [he] at h
        cases h
        exact ⟨rfl, rfl, rfl, rfl, rfl⟩

/-- Nothing is lost by cutting a text at its markers. -/
theorem content_of_parse (h : parse start stop content = .ok m) : content.toList = m.content := by
  obtain ⟨⟨hs, he⟩, rest, first, second⟩ := parse_eq_ok_iff.1 h
  rw [Text.eq_of_cut? first, Text.eq_of_cut? second]
  simp [MarkedText.content, lead, tail, hs, he]

/-- With another body, a text is cut at the same place when the end marker is found first at the
end of this body. -/
theorem parse_withBody_iff (h : parse start stop content = .ok m) (body : List Char) :
    parse start stop (String.ofList (m.lead ++ body ++ m.tail)) = .ok { m with body := body } ↔
      Text.cut? stop.toList (body ++ stop.toList) = some (body, []) := by
  obtain ⟨⟨hs, he⟩, rest, first, second⟩ := parse_eq_ok_iff.1 h
  have again := Text.cut?_replace_after first (body ++ m.tail)
  rw [parse_eq_ok_iff, String.toList_ofList, lead, hs, List.append_assoc, again]
  simp only [he, true_and, Option.some.injEq, Prod.mk.injEq, exists_eq_left', tail]
  rw [← List.append_assoc, Text.cut?_append_iff]

/-- A text that is cut again with another body differs from what it was in its body alone. -/
theorem eq_withBody_of_parse {again : MarkedText} {body : List Char}
    (h : parse start stop content = .ok m)
    (h' : parse start stop (String.ofList (m.lead ++ body ++ m.tail)) = .ok again)
    (hb : again.body = body) : again = { m with body := body } := by
  obtain ⟨⟨hs, he⟩, rest, first, -⟩ := parse_eq_ok_iff.1 h
  obtain ⟨⟨hs', he'⟩, rest', first', second'⟩ := parse_eq_ok_iff.1 h'
  have kept := Text.cut?_replace_after first (body ++ m.tail)
  rw [String.toList_ofList, lead, hs, List.append_assoc, kept] at first'
  simp only [Option.some.injEq, Prod.mk.injEq] at first'
  obtain ⟨before, rfl⟩ := first'
  have whole := Text.eq_of_cut? second'
  rw [hb, tail, he, List.append_assoc, List.append_cancel_left_eq,
    List.append_cancel_left_eq] at whole
  cases m
  cases again
  simp_all

end MarkedText

namespace Region

/-- Entries are fit when the end marker, put after their region, is found there first. -/
theorem accepts_iff {stop : String} {entries : List String} :
    accepts stop entries = true ↔
      Text.cut? stop.toList (render entries ++ stop.toList) = some (render entries, []) := by
  unfold accepts
  cases h : Text.cut? stop.toList (render entries ++ stop.toList) with
  | none => simp
  | some p =>
    obtain ⟨before, after⟩ := p
    simp only [Option.any_some, beq_iff_eq, Option.some.injEq, Prod.mk.injEq]
    constructor
    · intro hl
      have parts := Text.eq_of_cut? h
      rw [List.append_assoc] at parts
      obtain ⟨hb, ha⟩ := List.append_inj parts hl.symm
      exact ⟨hb.symm, List.self_eq_append_right.1 ha⟩
    · rintro ⟨rfl, -⟩
      rfl

end Region

namespace Patch

variable {start stop content : String} {path : Path} {m : MarkedText} {entries : List String}

theorem parseRegion_eq_ok_iff :
    parseRegion content start stop path = .ok m ↔ MarkedText.parse start stop content = .ok m := by
  unfold parseRegion
  split <;> simp_all

theorem validate_eq_ok_iff :
    validate entries stop = .ok () ↔ Region.accepts stop entries = true := by
  unfold validate
  split <;> simp_all

/-- **Entries are accepted exactly when their injection can be repeated.** The text with the
entries in its region is cut at the same start marker, into the region of these entries and the
same text from the end marker on, if and only if the entries pass the check. -/
theorem reinjectable_iff_validate (parsed : parseRegion content start stop path = .ok m)
    (entries : List String) :
    (∃ again, parseRegion (Region.splice m entries) start stop path = .ok again ∧
        again.startSpan = m.startSpan ∧ again.body = Region.render entries ∧
        again.tail = m.tail) ↔
      validate entries stop = .ok () := by
  rw [parseRegion_eq_ok_iff] at parsed
  rw [validate_eq_ok_iff, Region.accepts_iff, ← MarkedText.parse_withBody_iff parsed]
  simp only [parseRegion_eq_ok_iff, Region.splice]
  constructor
  · rintro ⟨again, reparsed, -, hb, -⟩
    rw [reparsed, MarkedText.eq_withBody_of_parse parsed reparsed hb]
  · intro reparsed
    exact ⟨_, reparsed, rfl, rfl, rfl⟩

/-- An end marker of which the first half is also the end of every region. The marker stands in no
entry, and yet the region would be cut short. -/
theorem not_reinjectable_straddling :
    let m : MarkedText := ⟨[], "<<".toList, [], "\n  \n".toList, []⟩
    parseRegion "<<\n  \n" "<<" "\n  \n" ⟨"rom"⟩ = .ok m ∧
      ¬ ∃ again, parseRegion (Region.splice m ["x", "y"]) "<<" "\n  \n" ⟨"rom"⟩ = .ok again ∧
        again.startSpan = m.startSpan ∧ again.body = Region.render ["x", "y"] ∧
        again.tail = m.tail := by
  have parsed : parseRegion "<<\n  \n" "<<" "\n  \n" ⟨"rom"⟩
      = .ok ⟨[], "<<".toList, [], "\n  \n".toList, []⟩ := by rfl
  refine ⟨parsed, ?_⟩
  rw [reinjectable_iff_validate parsed, validate_eq_ok_iff]
  decide

end Patch

end CoreTrial
