import CoreTrial.Number.Binary64.Basic
import CoreTrial.Proofs.Number.Decimal
import Mathlib.Data.Rat.Floor

/-!
# Rounding up

The value of a finite binary64 number is a rational. Held within a limit, its ceiling is what
`ceilWithin` computes on naturals, and this is 0 only of what is not positive.
-/

set_option autoImplicit false

namespace CoreTrial.Number.Binary64


/-- The exact value of a finite number. -/
def toRat (x : Binary64) : ℚ :=
  x.signedNum / x.den

theorem den_pos (x : Binary64) : 0 < x.den :=
  Nat.pow_pos (by decide)

variable {x : Binary64}

theorem not_isNaN_of_isFinite (h : x.isFinite = true) : x.isNaN = false := by
  simp only [isFinite, isNaN, decide_eq_true_eq, decide_eq_false_iff_not] at *
  omega

theorem not_isInfinite_of_isFinite (h : x.isFinite = true) : x.isInfinite = false := by
  simp only [isFinite, isInfinite, decide_eq_true_eq, beq_eq_false_iff_ne] at *
  omega

theorem ceil_toRat (h : x.isNegative = false) : ⌈x.toRat⌉.toNat = ceilDiv x.num x.den := by
  have den : (0 : ℚ) < x.den := by exact_mod_cast x.den_pos
  refine eq_of_forall_ge_iff fun k => ?_
  rw [ceilDiv_le_iff x.den_pos, Int.toNat_le, Int.ceil_le, toRat, div_le_iff₀ den, signedNum, h]
  simp only [Bool.false_eq_true, if_false]
  exact_mod_cast Iff.rfl

theorem toRat_nonpos (h : x.isNegative = true) : x.toRat ≤ 0 := by
  have num : ((x.signedNum : ℤ) : ℚ) ≤ 0 := by
    rw [signedNum, h, if_pos rfl, Int.cast_neg]
    exact neg_nonpos.2 (Int.cast_nonneg (Int.natCast_nonneg x.num))
  exact div_nonpos_of_nonpos_of_nonneg num (Nat.cast_nonneg x.den)

theorem isNaN_or_isInfinite_or_isFinite (x : Binary64) :
    x.isNaN = true ∨ x.isInfinite = true ∨ x.isFinite = true := by
  simp only [isNaN, isInfinite, isFinite, decide_eq_true_eq, beq_iff_eq]
  omega

theorem ceilWithin_of_isNaN (h : x.isNaN = true) (limit : Nat) : x.ceilWithin limit = 0 := by
  rw [ceilWithin, h]
  rfl

theorem ceilWithin_of_isInfinite (h : x.isInfinite = true) (limit : Nat) :
    x.ceilWithin limit = if x.isNegative then 0 else limit := by
  have number : x.isNaN = false := by
    simp only [isInfinite, isNaN, beq_iff_eq, decide_eq_false_iff_not] at *
    omega
  rw [ceilWithin, number, h]
  cases x.isNegative <;> rfl

/-- A finite number is rounded up, and held within the limit. -/
theorem ceilWithin_of_isFinite (h : x.isFinite = true) (limit : Nat) :
    x.ceilWithin limit = min ⌈x.toRat⌉.toNat limit := by
  rw [ceilWithin, not_isNaN_of_isFinite h, not_isInfinite_of_isFinite h]
  cases negative : x.isNegative with
  | true =>
    have none : ⌈x.toRat⌉.toNat = 0 := by
      rw [Int.toNat_eq_zero]
      exact Int.ceil_le.2 (by exact_mod_cast toRat_nonpos negative)
    simp [none]
  | false => simp [ceil_toRat negative]

theorem isZero_of_num_eq_zero (h : x.num = 0) : x.isZero = true := by
  have none : x.significand = 0 := by
    rcases Nat.mul_eq_zero.1 h with zero | power
    · exact zero
    · exact absurd power (Nat.pow_pos (by decide)).ne'
  rw [isZero, beq_iff_eq]
  unfold significand at none
  split at none
  next subnormal =>
    rw [exponentField, Nat.div_eq_zero_iff] at subnormal
    rcases subnormal with zero | small
    · exact absurd zero (Nat.pow_pos (by decide)).ne'
    · rwa [Nat.mod_eq_of_lt small] at none
  next =>
    have positive : 0 < Nat.pow 2 52 := Nat.pow_pos (by decide)
    exact absurd none (Nat.add_pos_right _ positive).ne'

/-- Only what is not positive is rounded up to 0. -/
theorem not_positive_of_ceilWithin_eq_zero {limit : Nat} (pos : 0 < limit)
    (h : x.ceilWithin limit = 0) : x.isNaN = true ∨ x.isNegative = true ∨ x.isZero = true := by
  unfold ceilWithin at h
  split at h
  next excluded =>
    rcases Bool.or_eq_true_iff.1 excluded with nan | negative
    · exact .inl nan
    · exact .inr (.inl negative)
  next =>
    split at h
    · omega
    · have zero : ceilDiv x.num x.den ≤ 0 := by omega
      rw [ceilDiv_le_iff x.den_pos, Nat.zero_mul, Nat.le_zero] at zero
      exact .inr (.inr (isZero_of_num_eq_zero zero))

end CoreTrial.Number.Binary64
