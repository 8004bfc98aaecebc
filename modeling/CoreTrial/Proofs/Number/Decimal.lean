import CoreTrial.Number.Decimal
import Mathlib.Algebra.Group.Nat.Defs

/-!
# Decimal digits are read back

What is written in digits is read as the number that was written, and division that rounds up is
the least that reaches.
-/

set_option autoImplicit false

namespace CoreTrial.Number

theorem digits_ne_nil (n : Nat) : digits n ≠ [] :=
  Nat.toDigits_ne_nil

theorem isDigit_of_mem_digits {n : Nat} {c : Char} (h : c ∈ digits n) : c.isDigit = true :=
  Nat.isDigit_of_mem_toDigits (by decide) (Nat.le_refl 10) h

theorem ofDigits_eq_ofDigitChars (s : List Char) :
    ofDigits s = Nat.ofDigitChars 10 s 0 := by
  have step : (fun (m : Nat) (c : Char) => m * 10 + digitValue c) =
      fun m c => 10 * m + (c.toNat - '0'.toNat) := by
    funext m c
    rw [Nat.mul_comm]
    rfl
  rw [ofDigits, step]
  rfl

theorem ofDigits_digits (n : Nat) : ofDigits (digits n) = n := by
  rw [ofDigits_eq_ofDigitChars]
  exact Nat.ofDigitChars_ten_toDigits

theorem readNat?_digits (n : Nat) : readNat? (digits n) = some n := by
  have all : (digits n).all Char.isDigit = true :=
    List.all_eq_true.2 fun _ mem => isDigit_of_mem_digits mem
  rw [readNat?, List.isEmpty_eq_false_iff.2 (digits_ne_nil n), all, ofDigits_digits]
  rfl

theorem isDigit_of_mem_padded {width n : Nat} {c : Char} (h : c ∈ padded width n) :
    c.isDigit = true := by
  rcases List.mem_append.1 h with zero | digit
  · rw [(List.mem_replicate.1 zero).2]
    rfl
  · exact isDigit_of_mem_digits digit

theorem padded_ne_nil (width n : Nat) : padded width n ≠ [] :=
  List.append_ne_nil_of_right_ne_nil _ (digits_ne_nil n)

/-- A number that has no more digits than there are places fills them. -/
theorem length_padded {width n : Nat} (pos : 0 < width) (small : n < 10 ^ width) :
    (padded width n).length = width := by
  have le : (digits n).length ≤ width :=
    (Nat.length_toDigits_le_iff (by decide) pos).2 small
  rw [padded, List.length_append, List.length_replicate]
  omega

theorem ofDigits_padded (width n : Nat) : ofDigits (padded width n) = n := by
  have zeros (k : Nat) : (List.replicate k '0').foldl (fun n c => n * 10 + digitValue c) 0 = 0 := by
    induction k with
    | zero => rfl
    | succ k ih => exact ih
  rw [ofDigits, padded, List.foldl_append, zeros]
  exact ofDigits_digits n

theorem ceilDiv_le_iff {num den k : Nat} (pos : 0 < den) : ceilDiv num den ≤ k ↔ num ≤ k * den := by
  rw [ceilDiv, Nat.div_le_iff_le_mul_add_pred pos, Nat.mul_comm den k]
  omega

end CoreTrial.Number
