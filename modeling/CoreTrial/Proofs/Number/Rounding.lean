import CoreTrial.Proofs.Number.Ceiling
import CoreTrial.Time.Duration

/-!
# What rounding leaves positive and finite

A quotient that is neither tiny nor huge is rounded to a positive number: the last place that is
kept lies within the range of the exponents, and at least one unit of it is left. `Within` says that
a number without a sign is finite and below a power of two; sums and quotients of such numbers are
rounded to such numbers. So a span of time is a positive number of seconds unless it is empty.
-/

set_option autoImplicit false

namespace CoreTrial.Number

theorem le_roundHalfEven (num den : Nat) : num / den ≤ roundHalfEven num den := by
  unfold roundHalfEven
  dsimp only
  split_ifs <;> omega

theorem roundHalfEven_le (num den : Nat) : roundHalfEven num den ≤ num / den + 1 := by
  unfold roundHalfEven
  dsimp only
  split_ifs <;> omega

namespace Binary64

variable {x y : Binary64} {num den k : Nat}

theorem magnitude_ofMagnitude {m : Nat} (le : m ≤ infinityBits) (negative : Bool) :
    (ofMagnitude negative m).magnitude = m := by
  have small : m < 2 ^ 63 := Nat.lt_of_le_of_lt le (by decide)
  unfold magnitude ofMagnitude
  rw [UInt64.toNat_ofNat']
  cases negative with
  | true =>
    simp only [if_true, Nat.pow_eq]
    omega
  | false =>
    simp only [Bool.false_eq_true, if_false, Nat.pow_eq]
    omega

theorem isNegative_ofMagnitude {m : Nat} (le : m ≤ infinityBits) :
    (ofMagnitude false m).isNegative = false := by
  have small : m < 2 ^ 63 := Nat.lt_of_le_of_lt le (by decide)
  unfold isNegative ofMagnitude
  rw [decide_eq_false_iff_not, UInt64.toNat_ofNat']
  simp only [Bool.false_eq_true, if_false, Nat.pow_eq]
  omega

/-- The last place of a quotient is some 52 places below its first one. -/
theorem lastPlace_bounds (num den : Nat) :
    (num.log2 : Int) + 1021 ≤ lastPlace num den + den.log2 ∧
      (lastPlace num den : Int) ≤ max 0 ((num.log2 : Int) - den.log2 + 1022) := by
  unfold lastPlace
  dsimp only
  split_ifs <;> omega

/-- The units of the last place that are kept have little more than 53 bits. -/
theorem kept_le (num : Nat) (den_pos : 0 < den) :
    roundHalfEven (num * Nat.pow 2 (1074 - lastPlace num den))
      (den * Nat.pow 2 (lastPlace num den - 1074)) ≤ 2 ^ 54 := by
  have bounds := (lastPlace_bounds num den).1
  generalize lastPlace num den = place at bounds ⊢
  have above : num * 2 ^ (1074 - place) < 2 ^ (num.log2 + 1 + (1074 - place)) := by
    rw [Nat.pow_add]
    exact Nat.mul_lt_mul_of_pos_right Nat.lt_log2_self (Nat.two_pow_pos _)
  have below : 2 ^ (den.log2 + (place - 1074)) ≤ den * 2 ^ (place - 1074) := by
    rw [Nat.pow_add]
    exact Nat.mul_le_mul_right _ (Nat.log2_self_le den_pos.ne')
  have powers : 2 ^ (num.log2 + 1 + (1074 - place)) ≤
      2 ^ 54 * 2 ^ (den.log2 + (place - 1074)) := by
    rw [← Nat.pow_add]
    exact Nat.pow_le_pow_right (by decide) (by omega)
  have whole : num * 2 ^ (1074 - place) / (den * 2 ^ (place - 1074)) < 2 ^ 54 := by
    rw [Nat.div_lt_iff_lt_mul (Nat.mul_pos den_pos (Nat.two_pow_pos _))]
    exact Nat.lt_of_lt_of_le above (powers.trans (Nat.mul_le_mul_left _ below))
  exact (roundHalfEven_le _ _).trans whole

/-- A quotient below a power of two is rounded to bits that tell so. -/
theorem magnitudeOfRatio_le (den_pos : 0 < den) (lt : num < den * 2 ^ k) :
    magnitudeOfRatio num den ≤ (k + 1026) * 2 ^ 52 := by
  have place : lastPlace num den ≤ k + 1022 := by
    have bounds := (lastPlace_bounds num den).2
    have logs : num.log2 ≤ den.log2 + k := by
      rcases Nat.eq_zero_or_pos num with rfl | pos
      · exact Nat.zero_le _
      · have below : den * 2 ^ k < 2 ^ (den.log2 + 1 + k) := by
          rw [Nat.pow_add]
          exact Nat.mul_lt_mul_of_pos_right Nat.lt_log2_self (Nat.two_pow_pos k)
        have := (Nat.log2_lt pos.ne').2 (lt.trans below)
        omega
    omega
  have kept := kept_le num den_pos
  unfold magnitudeOfRatio
  simp only [Nat.pow_eq] at kept ⊢
  omega

/-- A quotient that is not tiny is not rounded to zero. -/
theorem magnitudeOfRatio_pos (den_pos : 0 < den) (small : k ≤ 1074) (le : den ≤ num * 2 ^ k) :
    0 < magnitudeOfRatio num den := by
  have infinite : 0 < infinityBits := by decide
  refine Nat.lt_min.2 ⟨?_, infinite⟩
  generalize lastPlace num den = place
  rcases Nat.eq_zero_or_pos place with least | pos
  · have power : 2 ^ k ≤ 2 ^ (1074 - place) := Nat.pow_le_pow_right Nat.two_pos (by omega)
    have none : place - 1074 = 0 := by omega
    have whole := (Nat.one_le_div_iff den_pos).2 (le.trans (Nat.mul_le_mul_left num power))
    refine Nat.add_pos_right _ (Nat.lt_of_lt_of_le whole ?_)
    rw [none, Nat.pow_eq, Nat.pow_eq, Nat.pow_zero, Nat.mul_one]
    exact le_roundHalfEven _ _
  · exact Nat.add_pos_left (Nat.mul_pos pos (Nat.two_pow_pos 52)) _

/-- A number without a sign that is finite and below a power of two. -/
structure Within (x : Binary64) (k : Nat) : Prop where
  plus : x.isNegative = false
  finite : x.isFinite = true
  below : x.num < x.den * 2 ^ k

/-- Bits of a number tell a power of two that it is below. -/
theorem num_lt_of_magnitude_le (le : x.magnitude ≤ (k + 1026) * 2 ^ 52) :
    x.num < x.den * 2 ^ (k + 5) := by
  have field : x.exponentField ≤ k + 1026 := by
    rw [exponentField, Nat.pow_eq]
    omega
  have significand : x.significand < 2 ^ 53 := by
    rw [Binary64.significand]
    simp only [Nat.pow_eq]
    split_ifs <;> omega
  have power : 2 ^ 53 * 2 ^ (x.raisedPower - 1074) ≤ 2 ^ (1074 - x.raisedPower) * 2 ^ (k + 5) := by
    rw [← Nat.pow_add, ← Nat.pow_add]
    refine Nat.pow_le_pow_right (by decide) ?_
    unfold raisedPower
    omega
  refine Nat.lt_of_lt_of_le ?_ power
  exact Nat.mul_lt_mul_of_pos_right significand (Nat.two_pow_pos _)

/-- A quotient below a power of two that is not huge is rounded to a finite number. -/
theorem within_ofRatio (den_pos : 0 < den) (lt : num < den * 2 ^ k) (small : k ≤ 1000) :
    (ofRatio false num den).Within (k + 5) := by
  have bits : magnitudeOfRatio num den ≤ (k + 1026) * 2 ^ 52 := magnitudeOfRatio_le den_pos lt
  have finite : (k + 1026) * 2 ^ 52 < infinityBits := by
    unfold infinityBits
    omega
  obtain ⟨m, rounded, le⟩ :
      ∃ m, ofRatio false num den = ofMagnitude false m ∧ m ≤ (k + 1026) * 2 ^ 52 := by
    unfold ofRatio
    split
    · exact ⟨0, rfl, Nat.zero_le _⟩
    · exact ⟨_, rfl, bits⟩
  have known := magnitude_ofMagnitude (le.trans finite.le) false
  rw [rounded]
  refine ⟨isNegative_ofMagnitude (le.trans finite.le), ?_, num_lt_of_magnitude_le ?_⟩
  · rw [isFinite, known, decide_eq_true_eq]
    exact Nat.lt_of_le_of_lt le finite
  · rw [known]
    exact le

/-- A quotient that is not tiny is not rounded to zero. -/
theorem isZero_ofRatio (den_pos : 0 < den) (small : k ≤ 1074) (le : den ≤ num * 2 ^ k) :
    (ofRatio false num den).isZero = false := by
  have filled : num ≠ 0 := by
    rintro rfl
    omega
  have known := magnitude_ofMagnitude (m := magnitudeOfRatio num den) (Nat.min_le_right _ _) false
  rw [ofRatio, if_neg filled, isZero, known]
  exact beq_false_of_ne (magnitudeOfRatio_pos den_pos small le).ne'

theorem isZero_ofRatio_zero (den : Nat) : (ofRatio false 0 den).isZero = true := by
  rw [ofRatio, if_pos rfl, zero, isZero, magnitude_ofMagnitude (Nat.zero_le _)]
  exact beq_self_eq_true 0

theorem num_pos (nonzero : x.isZero = false) : 0 < x.num := by
  refine Nat.pos_of_ne_zero fun none => ?_
  rw [isZero_of_num_eq_zero none] at nonzero
  cases nonzero

theorem num_eq_zero (zero : x.isZero = true) : x.num = 0 := by
  have none : x.magnitude = 0 := beq_iff_eq.1 zero
  simp [num, significand, exponentField, none]

/-- All values are multiples of the least power of two. -/
theorem den_eq (x : Binary64) : ∃ k, k ≤ 1074 ∧ x.den = 2 ^ k :=
  ⟨1074 - x.raisedPower, Nat.sub_le _ _, rfl⟩

theorem Within.not_isNaN (h : x.Within k) : x.isNaN = false :=
  not_isNaN_of_isFinite h.finite

theorem Within.not_isInfinite (h : x.Within k) : x.isInfinite = false :=
  not_isInfinite_of_isFinite h.finite

theorem Within.isPositiveFinite (h : x.Within k) : x.isPositiveFinite = !x.isZero := by
  rw [Binary64.isPositiveFinite, h.finite, h.plus]
  rfl

/-- The sum of numbers without a sign is rounded once. -/
theorem add_eq_ofRatio {l : Nat} (hx : x.Within k) (hy : y.Within l) :
    x + y = ofRatio false (x.num * y.den + y.num * x.den) (x.den * y.den) := by
  change add x y = _
  have signed : x.signedNum = x.num ∧ y.signedNum = y.num := by
    constructor
    · rw [signedNum, hx.plus]
      rfl
    · rw [signedNum, hy.plus]
      rfl
  have exact : x.signedNum * y.den + y.signedNum * x.den =
      ((x.num * y.den + y.num * x.den : Nat) : Int) := by
    rw [signed.1, signed.2]
    push_cast
    rfl
  rw [add, hx.not_isNaN, hy.not_isNaN, hx.not_isInfinite, hy.not_isInfinite, exact, hx.plus,
    hy.plus]
  generalize x.num * y.den + y.num * x.den = sum
  have plus : ¬ ((sum : Int) < 0) := by omega
  simp [plus]

theorem within_add (hx : x.Within k) (hy : y.Within k) (small : k < 1000) :
    (x + y).Within (k + 6) := by
  rw [add_eq_ofRatio hx hy]
  refine within_ofRatio (Nat.mul_pos x.den_pos y.den_pos) ?_ small
  have left := Nat.mul_lt_mul_of_pos_right hx.below y.den_pos
  have right := Nat.mul_lt_mul_of_pos_right hy.below x.den_pos
  calc x.num * y.den + y.num * x.den < x.den * 2 ^ k * y.den + y.den * 2 ^ k * x.den := by omega
    _ = x.den * y.den * 2 ^ (k + 1) := by ring

/-- A sum of numbers without a sign is zero where both are. -/
theorem isZero_add (hx : x.Within k) (hy : y.Within k) :
    (x + y).isZero = (x.isZero && y.isZero) := by
  rw [add_eq_ofRatio hx hy]
  have den_pos : 0 < x.den * y.den := Nat.mul_pos x.den_pos y.den_pos
  obtain ⟨l, small, den⟩ := x.den_eq
  obtain ⟨l', small', den'⟩ := y.den_eq
  cases zero : x.isZero with
  | false =>
    refine isZero_ofRatio den_pos small ?_
    have one := Nat.mul_le_mul_right y.den (num_pos zero)
    calc x.den * y.den = 1 * y.den * 2 ^ l := by rw [den]; ring
      _ ≤ (x.num * y.den + y.num * x.den) * 2 ^ l :=
        Nat.mul_le_mul_right _ (one.trans (Nat.le_add_right _ _))
  | true =>
    rw [num_eq_zero zero, Nat.zero_mul, Nat.zero_add, Bool.true_and]
    cases zero' : y.isZero with
    | false =>
      refine isZero_ofRatio den_pos small' ?_
      have one := Nat.mul_le_mul_right x.den (num_pos zero')
      calc x.den * y.den = 1 * x.den * 2 ^ l' := by rw [den']; ring
        _ ≤ y.num * x.den * 2 ^ l' := Nat.mul_le_mul_right _ one
    | true =>
      rw [num_eq_zero zero', Nat.zero_mul]
      exact isZero_ofRatio_zero _

/-- A quotient by a number without a sign that is not zero is rounded once. -/
theorem div_eq_ofRatio {l : Nat} (hx : x.Within k) (hy : y.Within l) (nonzero : y.isZero = false) :
    x / y = ofRatio false (x.num * y.den) (x.den * y.num) := by
  change div x y = _
  rw [div, hx.not_isNaN, hy.not_isNaN, hx.not_isInfinite, hy.not_isInfinite, hx.plus, hy.plus,
    nonzero]
  simp only [Bool.or_false, Bool.false_eq_true, if_false, bne_self_eq_false]

/-- A quotient by a number that is not below one. -/
theorem within_div {l : Nat} (hx : x.Within k) (hy : y.Within l) (nonzero : y.isZero = false)
    (one_le : y.den ≤ y.num) (small : k ≤ 1000) : (x / y).Within (k + 5) := by
  rw [div_eq_ofRatio hx hy nonzero]
  refine within_ofRatio (Nat.mul_pos x.den_pos (num_pos nonzero)) ?_ small
  calc x.num * y.den < x.den * 2 ^ k * y.den := Nat.mul_lt_mul_of_pos_right hx.below y.den_pos
    _ ≤ x.den * 2 ^ k * y.num := Nat.mul_le_mul_left _ one_le
    _ = x.den * y.num * 2 ^ k := by ring

/-- A natural below a power of two. -/
theorem within_ofNat {n : Nat} (lt : n < 2 ^ k) (small : k ≤ 1000) : (ofNat n).Within (k + 5) :=
  within_ofRatio Nat.one_pos (by rwa [Nat.one_mul]) small

/-- A natural that is not zero is rounded to a number with all 53 bits. -/
theorem le_num_ofNat {n : Nat} (pos : 0 < n) : 2 ^ 52 ≤ (ofNat n).num := by
  have place := (lastPlace_bounds n 1).1
  have log : Nat.log2 1 = 0 := rfl
  have normal : 2 ^ 52 ≤ magnitudeOfRatio n 1 := by
    have units := Nat.le_mul_of_pos_left (2 ^ 52) (by omega : 0 < lastPlace n 1)
    have infinite : 2 ^ 52 ≤ infinityBits := by decide
    unfold magnitudeOfRatio
    rw [Nat.pow_eq]
    exact Nat.le_min.2 ⟨Nat.le_add_right_of_le units, infinite⟩
  have known := magnitude_ofMagnitude (m := magnitudeOfRatio n 1) (Nat.min_le_right _ _) false
  have number : ofNat n = ofMagnitude false (magnitudeOfRatio n 1) := if_neg pos.ne'
  have field : (ofNat n).exponentField ≠ 0 := by
    rw [number, exponentField, known, Nat.pow_eq]
    omega
  have significand : 2 ^ 52 ≤ (ofNat n).significand := by
    rw [Binary64.significand, if_neg field]
    exact Nat.le_add_left _ _
  exact significand.trans (Nat.le_mul_of_pos_right _ (Nat.two_pow_pos _))

theorem isZero_ofNat {n : Nat} : (ofNat n).isZero = decide (n = 0) := by
  rcases Nat.eq_zero_or_pos n with rfl | pos
  · exact isZero_ofRatio_zero 1
  · rw [decide_eq_false pos.ne']
    cases zero : (ofNat n).isZero with
    | false => rfl
    | true =>
      have bits := le_num_ofNat pos
      rw [num_eq_zero zero] at bits
      exact absurd bits (by decide)

end Binary64

end CoreTrial.Number

namespace CoreTrial.Duration

open Number (Binary64)
open Number.Binary64

/-- The nanoseconds in a second are a number that needs no rounding. -/
theorem billion : (ofNat 1000000000).Within 35 ∧ (ofNat 1000000000).isZero = false ∧
    (ofNat 1000000000).den ≤ (ofNat 1000000000).num ∧
    (ofNat 1000000000).num ≤ 2 ^ 52 * (ofNat 1000000000).den := by
  refine ⟨within_ofNat (k := 30) (by decide) (by decide), ?_, ?_, ?_⟩
  · decide +kernel
  · decide +kernel
  · decide +kernel

/-- A fraction of a second is zero where it has no nanoseconds. -/
theorem isZero_fraction {n : Nat} (lt : n < 2 ^ 30) :
    (ofNat n / ofNat 1000000000).isZero = decide (n = 0) := by
  obtain ⟨within, nonzero, -, le⟩ := billion
  rw [div_eq_ofRatio (within_ofNat lt (by decide)) within nonzero]
  rcases Nat.eq_zero_or_pos n with rfl | pos
  · have none : (ofNat 0).num = 0 := num_eq_zero (isZero_ofRatio_zero 1)
    rw [none, Nat.zero_mul, isZero_ofRatio_zero]
    rfl
  · rw [decide_eq_false pos.ne']
    obtain ⟨l, small, den⟩ := (ofNat n).den_eq
    refine isZero_ofRatio (Nat.mul_pos (ofNat n).den_pos (num_pos nonzero)) small ?_
    calc (ofNat n).den * (ofNat 1000000000).num
        ≤ 2 ^ l * (2 ^ 52 * (ofNat 1000000000).den) := by
          rw [den]
          exact Nat.mul_le_mul_left _ le
      _ ≤ 2 ^ l * ((ofNat n).num * (ofNat 1000000000).den) :=
        Nat.mul_le_mul_left _ (Nat.mul_le_mul_right _ (le_num_ofNat pos))
      _ = (ofNat n).num * (ofNat 1000000000).den * 2 ^ l := Nat.mul_comm _ _

/-- **A span of time is a positive number of seconds unless it is empty.** -/
theorem isPositiveFinite_seconds {n : Nat} (short : n < 2 ^ 128) :
    (seconds n).isPositiveFinite = true ↔ 0 < n := by
  have part : n % 1000000000 < 2 ^ 30 := by omega
  obtain ⟨within, nonzero, one_le, -⟩ := billion
  have whole : (ofNat (n / 1000000000)).Within 133 :=
    within_ofNat (k := 128) (by omega) (by decide)
  have fraction : (ofNat (n % 1000000000) / ofNat 1000000000).Within 133 :=
    within_div (within_ofNat (k := 123) (by omega) (by decide)) within nonzero one_le (by decide)
  unfold seconds
  rw [(within_add whole fraction (by decide)).isPositiveFinite, isZero_add whole fraction,
    isZero_fraction part, isZero_ofNat]
  simp only [Bool.not_eq_true', Bool.and_eq_false_iff, decide_eq_false_iff_not]
  omega

end CoreTrial.Duration
