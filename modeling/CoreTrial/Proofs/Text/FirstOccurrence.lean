import CoreTrial.Text.Search
import Mathlib.Data.List.Basic

/-!
# Where a pattern occurs first

`Text.cut?` is `List.dropInfix?`, so a text is cut at the least prefix that the pattern follows.
What comes after the first occurrence has no say in where it lies: an occurrence that starts
earlier also ends earlier, so it would lie within the text that the first one closes.
-/

set_option autoImplicit false

namespace CoreTrial.Text

theorem after?_eq_dropPrefix? (pattern s : List Char) :
    after? pattern s = s.dropPrefix? pattern := by
  ext r
  rw [after?_eq_some_iff, List.dropPrefix?_eq_some_iff]
  constructor
  · intro h
    exact ⟨pattern, h, BEq.rfl⟩
  · rintro ⟨p, h, hp⟩
    rw [h, eq_of_beq hp]

theorem after?_append_self (pattern s : List Char) : after? pattern (pattern ++ s) = some s :=
  after?_eq_some_iff.2 rfl

theorem after?_of_head?_ne {p : Char} {ps s : List Char} (h : s.head? ≠ some p) :
    after? (p :: ps) s = none := by
  cases s with
  | nil => rfl
  | cons c s =>
    have ne : p ≠ c := fun e => h (by rw [e]; rfl)
    simp only [after?, if_neg ne]

theorem cutFrom_eq_dropInfix?_go (pattern before s : List Char) :
    cutFrom pattern before s = List.dropInfix?.go pattern s before := by
  induction s generalizing before with
  | nil =>
    rw [cutFrom, List.dropInfix?.go, after?_eq_dropPrefix?]
    cases pattern with
    | nil => rfl
    | cons p ps => rfl
  | cons c s ih =>
    rw [cutFrom, List.dropInfix?.go, after?_eq_dropPrefix?, ih]
    cases (c :: s).dropPrefix? pattern <;> rfl

theorem cut?_eq_dropInfix? (pattern s : List Char) : cut? pattern s = s.dropInfix? pattern :=
  cutFrom_eq_dropInfix?_go pattern [] s

/-- A text is cut at the least prefix that the pattern follows. -/
theorem cut?_eq_some_iff {pattern s before after : List Char} :
    cut? pattern s = some (before, after) ↔
      s = before ++ pattern ++ after ∧
        ∀ x y, s = x ++ pattern ++ y → before.length ≤ x.length := by
  rw [cut?_eq_dropInfix?, List.dropInfix?_eq_some_iff]
  constructor
  · rintro ⟨⟨p, hs, hp⟩, least⟩
    rw [eq_of_beq hp] at hs
    exact ⟨hs, fun x y h => least x pattern y h BEq.rfl⟩
  · rintro ⟨hs, least⟩
    refine ⟨⟨pattern, hs, BEq.rfl⟩, fun x p y h hp => ?_⟩
    rw [eq_of_beq hp] at h
    exact least x y h

/-- A text that is cut is put together again from its parts. -/
theorem eq_of_cut? {pattern s before after : List Char}
    (h : cut? pattern s = some (before, after)) : s = before ++ pattern ++ after :=
  (cut?_eq_some_iff.1 h).1

/-- A text that starts with the pattern is cut there. -/
theorem cut?_append_self (pattern s : List Char) : cut? pattern (pattern ++ s) = some ([], s) :=
  cut?_eq_some_iff.2 ⟨rfl, fun _ _ _ => Nat.zero_le _⟩

theorem cutFrom_eq_map (pattern before s : List Char) :
    cutFrom pattern before s = (cut? pattern s).map fun p => (before.reverse ++ p.1, p.2) := by
  induction s generalizing before with
  | nil =>
    rw [cut?, cutFrom, cutFrom]
    cases after? pattern [] <;> simp
  | cons c s ih =>
    rw [cut?, cutFrom, cutFrom, ih (c :: before), ih [c]]
    cases after? pattern (c :: s) <;> simp [Function.comp_def]

/-- A text that does not start with the pattern is cut within the rest. -/
theorem cut?_cons {pattern : List Char} {c : Char} {s : List Char}
    (h : after? pattern (c :: s) = none) :
    cut? pattern (c :: s) = (cut? pattern s).map fun p => (c :: p.1, p.2) := by
  rw [cut?, cutFrom, h]
  exact cutFrom_eq_map pattern [c] s

/-- A pattern occurs where a text can be cut at it. -/
theorem occursIn_iff {pattern s : List Char} : occursIn pattern s = true ↔ pattern <:+: s := by
  induction s with
  | nil =>
    rw [List.infix_nil, occursIn, cut?, cutFrom]
    cases pattern with
    | nil => simp [after?]
    | cons p ps => simp [after?]
  | cons c s ih =>
    rw [List.infix_cons_iff]
    cases here : after? pattern (c :: s) with
    | some rest =>
      have whole := after?_eq_some_iff.1 here
      refine iff_of_true ?_ (.inl ⟨rest, whole.symm⟩)
      rw [occursIn, cut?, cutFrom, here]
      rfl
    | none =>
      rw [occursIn, cut?_cons here, Option.isSome_map]
      refine ih.trans (or_iff_right ?_).symm
      rintro ⟨rest, whole⟩
      exact Option.some_ne_none rest ((after?_eq_some_iff.2 whole.symm).symm.trans here)

/-- An occurrence that starts no later than another one lies in the text that this one closes. -/
theorem occurs_within {pattern x y before after : List Char}
    (h : x ++ pattern ++ y = before ++ pattern ++ after) (le : x.length ≤ before.length) :
    ∃ z, before ++ pattern = x ++ pattern ++ z := by
  have whole : x ++ pattern <+: before ++ pattern ++ after := h ▸ List.prefix_append _ y
  have closed : before ++ pattern <+: before ++ pattern ++ after := List.prefix_append _ after
  obtain ⟨z, hz⟩ := List.prefix_of_prefix_length_le whole closed (by simpa using le)
  exact ⟨z, hz.symm⟩

/-- What follows the first occurrence has no say in where it lies. -/
theorem cut?_append_iff {pattern before : List Char} (after : List Char) :
    cut? pattern (before ++ pattern ++ after) = some (before, after) ↔
      cut? pattern (before ++ pattern) = some (before, []) := by
  simp only [cut?_eq_some_iff, List.append_nil, true_and]
  constructor
  · intro least x y h
    exact least x (y ++ after) (by rw [h, List.append_assoc])
  · intro least x y h
    by_contra hlt
    obtain ⟨z, hz⟩ := occurs_within h.symm (by omega)
    exact hlt (least x z hz)

/-- Another text may follow the first occurrence. -/
theorem cut?_replace_after {pattern s before after : List Char}
    (h : cut? pattern s = some (before, after)) (other : List Char) :
    cut? pattern (before ++ pattern ++ other) = some (before, other) := by
  rw [eq_of_cut? h, cut?_append_iff] at h
  exact (cut?_append_iff other).2 h

end CoreTrial.Text
