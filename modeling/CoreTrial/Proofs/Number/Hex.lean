import CoreTrial.Number.Hex
import Mathlib.Tactic.IntervalCases

/-!
# Hexadecimal digits are read back

Reading takes one digit at a time from the highest on, and printing puts the lowest one last, so
both go along `List.concat`.
-/

set_option autoImplicit false

namespace CoreTrial.Number

variable (letters : HexCase)

theorem hexValue?_hexDigit {n : Nat} (h : n < 16) : hexValue? (hexDigit letters n) = some n := by
  cases letters <;> interval_cases n <;> rfl

theorem length_hexPlaces (places n : Nat) : (hexPlaces letters places n).length = places := by
  induction places generalizing n with
  | zero => rfl
  | succ places ih => rw [hexPlaces, List.length_append, ih, List.length_singleton]

theorem readHex?_concat (s : List Char) (c : Char) :
    readHex? (s ++ [c]) = (readHex? s).bind fun n => (hexValue? c).map fun d => n * 16 + d := by
  rw [readHex?, List.foldl_append, ← readHex?, List.foldl_cons, List.foldl_nil]
  cases readHex? s with
  | none => rfl
  | some n =>
    show (hexValue? c).bind _ = _
    cases hexValue? c <;> rfl

/-- Digits denote the number that is left when higher places are dropped. -/
theorem readHex?_hexPlaces (places n : Nat) :
    readHex? (hexPlaces letters places n) = some (n % 16 ^ places) := by
  induction places generalizing n with
  | zero => rw [Nat.pow_zero, Nat.mod_one, hexPlaces]; rfl
  | succ places ih =>
    have digit := hexValue?_hexDigit letters (Nat.mod_lt n (by decide : 0 < 16))
    rw [hexPlaces, readHex?_concat, ih, digit, Option.bind_some, Option.map_some, Nat.pow_succ,
      Nat.mul_comm (16 ^ places), Nat.mod_mul]
    congr 1
    omega

theorem isAlphanum_of_mem_hexPlaces {places n : Nat} {c : Char}
    (mem : c ∈ hexPlaces letters places n) : c.isAlphanum = true := by
  have digit {d : Nat} (h : d < 16) : (hexDigit letters d).isAlphanum = true := by
    cases letters <;> interval_cases d <;> rfl
  induction places generalizing n with
  | zero => cases mem
  | succ places ih =>
    rcases List.mem_append.1 mem with higher | lowest
    · exact ih higher
    · rw [List.mem_singleton.1 lowest]
      exact digit (Nat.mod_lt n (by decide))

/-- The eight digits of a word denote the word. -/
theorem readHex?_hexWord (w : UInt32) : readHex? (hexWord letters w) = some w.toNat := by
  rw [hexWord, readHex?_hexPlaces, Nat.mod_eq_of_lt]
  exact w.toNat_lt

end CoreTrial.Number
