import CoreTrial.Proofs.Number.Decimal
import CoreTrial.Proofs.Utilization.Agreement
import Mathlib.Data.List.Induction
import Mathlib.Data.Nat.Find

/-!
# The rule of a lookup

What a report says of a key, said on the text alone: the key, a colon, at most one space, decimal
digits and a percent sign, from a place on that lies at a word boundary. The least such place
counts, whatever stands there: its digits may be unreadable where those of a later one are not.
`lookup_eq_iff` says that a lookup follows this rule.
-/

set_option autoImplicit false

namespace CoreTrial.Utilization

/-- An entry of `key` with these digits stands in `text` from the place `i` on. -/
structure Stands (text key : List Char) (i : Nat) (digits : List Char) : Prop where
  /-- Exactly one of the characters before and at the place is a word character. -/
  boundary : Xor ((text.take i).getLast?.any Text.isWordChar) (text[i]?.any Text.isWordChar)
  shape : ∃ space rest, (space = [] ∨ space = [' ']) ∧
    text.drop i = key ++ ':' :: (space ++ digits ++ '%' :: rest)
  filled : digits ≠ []
  decimal : ∀ c ∈ digits, Text.isDecimalDigit c = true

/-- The entry of `key` that counts: none stands before it. -/
structure StandsFirst (text key : List Char) (i : Nat) (digits : List Char) : Prop
    extends Stands text key i digits where
  first : ∀ j < i, ∀ other, ¬ Stands text key j other

/-- The digits are of ASCII and denote a number of 32 bits. -/
def Readable (digits : List Char) : Prop :=
  (∀ c ∈ digits, c.isDigit = true) ∧ Nat.ofDigitChars 10 digits 0 < 2 ^ 32

/-- What the rule says of a key. -/
inductive Says (text key : List Char) : Lookup → Prop
  | missing (nowhere : ∀ i digits, ¬ Stands text key i digits) : Says text key .missing
  | found {i : Nat} {digits : List Char} (stands : StandsFirst text key i digits)
      (readable : Readable digits) :
      Says text key (.found (UInt32.ofNat (Nat.ofDigitChars 10 digits 0)))
  | unreadable {i : Nat} {digits : List Char} (stands : StandsFirst text key i digits)
      (beyond : ¬ Readable digits) : Says text key (.unreadable (String.ofList digits))

variable {text key digits : List Char}

theorem xor_iff_isWordBoundary {before after : Option Char} :
    Xor (before.any Text.isWordChar = true) (after.any Text.isWordChar = true) ↔
      Text.isWordBoundary before after = true := by
  unfold Text.isWordBoundary Text.isWordNeighbour Xor
  cases before.any Text.isWordChar <;> cases after.any Text.isWordChar <;> decide

theorem lastOf_none (s : List Char) : lastOf none s = s.getLast? := by
  induction s using List.reverseRecOn with
  | nil => rfl
  | append_singleton s c ih => rw [lastOf_append, List.getLast?_concat]; rfl

/-- A space is not a digit, so there is one way to skip it. -/
theorem skipSpace_append {space s : List Char} (h : space = [] ∨ space = [' '])
    (other : s.head? ≠ some ' ') : skipSpace (space ++ s) = s := by
  rcases h with rfl | rfl
  · cases s with
    | nil => rfl
    | cons c s =>
      have ne : c ≠ ' ' := fun same => other (congrArg some same)
      rw [List.nil_append, skipSpace]
      rintro rest ⟨⟩
      exact ne rfl
  · rfl

theorem eq_append_skipSpace (s : List Char) :
    ∃ space, (space = [] ∨ space = [' ']) ∧ s = space ++ skipSpace s := by
  fun_cases skipSpace s with
  | case1 rest => exact ⟨[' '], .inr rfl, rfl⟩
  | case2 s => exact ⟨[], .inl rfl, rfl⟩

/-- The digits of an entry end at its percent sign, which is no digit. -/
theorem takeWhile_isDecimalDigit (decimal : ∀ c ∈ digits, Text.isDecimalDigit c = true)
    (rest : List Char) : (digits ++ '%' :: rest).takeWhile Text.isDecimalDigit = digits := by
  rw [List.takeWhile_append_of_pos decimal, List.takeWhile_cons_of_neg (by decide),
    List.append_nil]

/-- The digits after a key are those of the one entry that can stand there. -/
theorem digitsAfterKey?_eq_some_iff {s : List Char} :
    digitsAfterKey? s = some digits ↔
      (∃ space rest, (space = [] ∨ space = [' ']) ∧ s = ':' :: (space ++ digits ++ '%' :: rest)) ∧
        digits ≠ [] ∧ ∀ c ∈ digits, Text.isDecimalDigit c = true := by
  constructor
  · intro h
    unfold digitsAfterKey? at h
    split at h
    · rename_i rest
      obtain ⟨space, blank, whole⟩ := eq_append_skipSpace rest
      dsimp only at h
      split at h
      · cases h
      · rename_i filled
        split at h
        · rename_i percent
          cases h
          obtain ⟨tail, parts⟩ := List.takeWhile_prefix Text.isDecimalDigit (l := skipSpace rest)
          have left := congrArg
            (List.drop ((skipSpace rest).takeWhile Text.isDecimalDigit).length) parts
          rw [List.drop_left] at left
          rw [← left] at percent
          obtain ⟨after, rfl⟩ := List.head?_eq_some_iff.1 percent
          refine ⟨⟨space, after, blank, ?_⟩, by simpa using filled, ?_⟩
          · rw [List.append_assoc, parts, ← whole]
          · intro c mem
            exact List.mem_takeWhile_imp mem
        · cases h
    · cases h
  · rintro ⟨⟨space, rest, blank, rfl⟩, filled, decimal⟩
    have no_space : (digits ++ '%' :: rest).head? ≠ some ' ' := by
      obtain ⟨d, ds, rfl⟩ := List.exists_cons_of_ne_nil filled
      rintro ⟨⟩
      exact absurd (decimal ' ' List.mem_cons_self) (by decide)
    rw [List.append_assoc, digitsAfterKey?]
    simp [skipSpace_append blank no_space, takeWhile_isDecimalDigit decimal, filled]

/-- An entry is found at a place exactly where it stands. -/
theorem entryOf?_eq_some_iff {i : Nat} :
    entryOf? key (lastOf none (text.take i)) (text.drop i) = some digits ↔
      Stands text key i digits := by
  rw [lastOf_none, entryOf?, List.head?_drop]
  constructor
  · intro h
    split at h
    · rename_i boundary
      obtain ⟨rest, after, read⟩ := Option.bind_eq_some_iff.1 h
      obtain ⟨⟨space, rest', blank, rfl⟩, filled, decimal⟩ := digitsAfterKey?_eq_some_iff.1 read
      exact ⟨xor_iff_isWordBoundary.2 boundary,
        ⟨space, rest', blank, Text.after?_eq_some_iff.1 after⟩, filled, decimal⟩
    · cases h
  · rintro ⟨boundary, ⟨space, rest, blank, whole⟩, filled, decimal⟩
    rw [if_pos (xor_iff_isWordBoundary.1 boundary), Text.after?_eq_some_iff.2 whole,
      Option.bind_some]
    exact digitsAfterKey?_eq_some_iff.2 ⟨⟨space, rest, blank, rfl⟩, filled, decimal⟩

/-- All places are tried in order: the entry that is found stands at the first place that has
one. -/
theorem firstDigits?_eq_some_iff (before : Option Char) (s : List Char) :
    firstDigits? key before s = some digits ↔
      ∃ i, entryOf? key (lastOf before (s.take i)) (s.drop i) = some digits ∧
        ∀ j < i, entryOf? key (lastOf before (s.take j)) (s.drop j) = none := by
  induction s generalizing before with
  | nil =>
    simp only [List.take_nil, List.drop_nil]
    constructor
    · intro h
      exact ⟨0, h, fun _ lt => absurd lt (Nat.not_lt_zero _)⟩
    · rintro ⟨-, h, -⟩
      exact h
  | cons c s ih =>
    rw [firstDigits?]
    cases here : entryOf? key before (c :: s) with
    | some found =>
      constructor
      · rintro ⟨⟩
        exact ⟨0, here, fun _ lt => absurd lt (Nat.not_lt_zero _)⟩
      · rintro ⟨i, there, first⟩
        cases i with
        | zero => exact here.symm.trans there
        | succ i => cases here.symm.trans (first 0 (Nat.succ_pos i))
    | none =>
      show firstDigits? key (some c) s = some digits ↔ _
      rw [ih]
      constructor
      · rintro ⟨i, there, first⟩
        refine ⟨i + 1, there, fun j lt => ?_⟩
        cases j with
        | zero => exact here
        | succ j => exact first j (Nat.lt_of_succ_lt_succ lt)
      · rintro ⟨i, there, first⟩
        cases i with
        | zero => cases here.symm.trans there
        | succ i => exact ⟨i, there, fun j lt => first (j + 1) (Nat.succ_lt_succ lt)⟩

theorem firstDigits?_eq_some_iff_standsFirst :
    firstDigits? key none text = some digits ↔ ∃ i, StandsFirst text key i digits := by
  rw [firstDigits?_eq_some_iff]
  refine exists_congr fun i => ?_
  rw [entryOf?_eq_some_iff]
  constructor
  · rintro ⟨stands, first⟩
    refine ⟨stands, fun j lt other earlier => ?_⟩
    cases (entryOf?_eq_some_iff.2 earlier).symm.trans (first j lt)
  · rintro ⟨stands, first⟩
    refine ⟨stands, fun j lt => Option.eq_none_iff_forall_ne_some.2 fun other earlier => ?_⟩
    exact first j lt other (entryOf?_eq_some_iff.1 earlier)

/-- Where an entry stands at all, one stands first. -/
theorem exists_standsFirst {i : Nat} (stands : Stands text key i digits) :
    ∃ j first, StandsFirst text key j first := by
  classical
  have some_place : ∃ j first, Stands text key j first := ⟨i, digits, stands⟩
  obtain ⟨first, least⟩ := Nat.find_spec some_place
  exact ⟨Nat.find some_place, first, least, fun j lt other earlier =>
    Nat.find_min some_place lt ⟨other, earlier⟩⟩

theorem firstDigits?_eq_none_iff :
    firstDigits? key none text = none ↔ ∀ i digits, ¬ Stands text key i digits := by
  constructor
  · intro nothing i digits stands
    obtain ⟨j, first, standsFirst⟩ := exists_standsFirst stands
    have found := firstDigits?_eq_some_iff_standsFirst.2 ⟨j, standsFirst⟩
    cases nothing.symm.trans found
  · intro nowhere
    refine Option.eq_none_iff_forall_ne_some.2 fun digits found => ?_
    obtain ⟨i, stands⟩ := firstDigits?_eq_some_iff_standsFirst.1 found
    exact nowhere i digits stands.toStands

/-- Digits are read where they are readable. -/
theorem readPercent_of_readable (filled : digits ≠ []) (readable : Readable digits) :
    readPercent digits = .found (UInt32.ofNat (Nat.ofDigitChars 10 digits 0)) := by
  have all : digits.all Char.isDigit = true := List.all_eq_true.2 readable.1
  have fits : Nat.ofDigitChars 10 digits 0 < percentLimit := readable.2
  rw [readPercent, Number.readNat?, List.isEmpty_eq_false_iff.2 filled, all,
    Number.ofDigits_eq_ofDigitChars]
  exact if_pos fits

theorem readPercent_of_not_readable (beyond : ¬ Readable digits) :
    readPercent digits = .unreadable (String.ofList digits) := by
  unfold readPercent Number.readNat?
  split
  · rename_i n read
    split at read
    · cases read
    · rename_i plain
      cases read
      have all : digits.all Char.isDigit = true := by
        simp only [Bool.or_eq_true, Bool.not_eq_true', not_or, Bool.not_eq_false] at plain
        exact plain.2
      rw [Number.ofDigits_eq_ofDigitChars]
      exact if_neg fun fits => beyond ⟨List.all_eq_true.1 all, fits⟩
  · rfl

/-- **A lookup follows its rule.** For every text and every key it answers what the first entry of
the key says: that there is none, the number of its digits, or the digits themselves where they are
not of ASCII or denote a number beyond 32 bits. -/
theorem lookup_eq_iff (text key : String) (l : Lookup) :
    lookup text key = l ↔ Says text.toList key.toList l := by
  unfold lookup
  cases found : firstDigits? key.toList none text.toList with
  | none =>
    have nowhere := firstDigits?_eq_none_iff.1 found
    constructor
    · rintro rfl
      exact .missing nowhere
    · rintro (_ | ⟨stands, -⟩ | ⟨stands, -⟩)
      · rfl
      · exact absurd stands.toStands (nowhere _ _)
      · exact absurd stands.toStands (nowhere _ _)
  | some digits =>
    obtain ⟨i, stands⟩ := firstDigits?_eq_some_iff_standsFirst.1 found
    have only {j : Nat} {other : List Char} (h : StandsFirst text.toList key.toList j other) :
        other = digits :=
      Option.some.inj ((firstDigits?_eq_some_iff_standsFirst.2 ⟨j, h⟩).symm.trans found)
    dsimp only
    constructor
    · rintro rfl
      by_cases readable : Readable digits
      · rw [readPercent_of_readable stands.filled readable]
        exact .found stands readable
      · rw [readPercent_of_not_readable readable]
        exact .unreadable stands readable
    · rintro (nowhere | ⟨stands', readable⟩ | ⟨stands', beyond⟩)
      · exact absurd stands.toStands (nowhere _ _)
      · cases only stands'
        exact readPercent_of_readable stands.filled readable
      · cases only stands'
        exact readPercent_of_not_readable beyond

example : lookup "aLUT: 1% LUT:  2% LUT: 4294967296% LUT: 3%" "LUT" = .unreadable "4294967296" := by
  decide +kernel

end CoreTrial.Utilization
