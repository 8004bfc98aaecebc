import CoreTrial.Proofs.Machine.Operation

/-!
# Executions of a list of words

The words lie at consecutive addresses and are only read. A core takes the word at its program
counter, executes it and goes on; the values that its loads find are given one after the other. It
cannot go on from where no word lies, or from a word that is no operation. The log of an execution
says, oldest first, where each executed word lay and what it accessed.
-/

set_option autoImplicit false

namespace CoreTrial.Machine

/-- The address of a word, counted in words from `base` on. -/
def addressOf (base : UInt32) (i : Nat) : UInt32 :=
  base + UInt32.ofNat (4 * i)

/-- The word at an address, where the words lie from `base` on. A core does not fetch from between
two words. -/
def fetch? (words : List UInt32) (base address : UInt32) : Option UInt32 :=
  if address.toNat % 4 = 0 then words[(address - base).toNat / 4]? else none

/-- The execution of one word. -/
structure Executed where
  address : UInt32
  access : Option Access
  deriving DecidableEq, Repr

namespace Executed

/-- The word loaded something. -/
def isLoad (e : Executed) : Bool :=
  match e.access with
  | some (.load ..) => true
  | _ => false

/-- The word stored something. -/
def isStore (e : Executed) : Bool :=
  match e.access with
  | some (.store ..) => true
  | _ => false

end Executed

/-- A core that has executed the words of a log. -/
structure Execution where
  core : Core
  log : List Executed

namespace Execution

variable (words : List UInt32) (base : UInt32) (values : Nat → UInt32)

/-- Executes one more word; its load finds the next value. -/
def step? (s : Execution) : Option Execution := do
  let word ← fetch? words base s.core.pc
  let operation ← operation? word
  let (core, access) := operation.execute (values (s.log.countP (·.isLoad))) s.core
  return ⟨core, s.log ++ [⟨s.core.pc, access⟩]⟩

/-- Executes `n` words, from the first one on. -/
def run? (registers : Register → UInt32) : Nat → Option Execution
  | 0 => some ⟨⟨base, registers⟩, []⟩
  | n + 1 => (run? registers n).bind (step? words base values)

end Execution

@[simp] theorem addressOf_zero (base : UInt32) : addressOf base 0 = base := UInt32.add_zero base

theorem addressOf_succ (base : UInt32) (i : Nat) :
    addressOf base i + 4 = addressOf base (i + 1) := by
  unfold addressOf
  rw [UInt32.add_assoc, Nat.mul_succ, UInt32.ofNat_add]
  rfl

/-- Eight bytes before a word lies the one two words before it. -/
theorem addressOf_add_two (base : UInt32) (i : Nat) :
    addressOf base (i + 2) + .ofInt (-8) = addressOf base i := by
  rw [← addressOf_succ, ← addressOf_succ, UInt32.add_assoc, UInt32.add_assoc]
  exact UInt32.add_zero _

theorem addressOf_inj {base : UInt32} {i j : Nat} (hi : 4 * i < 2 ^ 32) (hj : 4 * j < 2 ^ 32) :
    addressOf base i = addressOf base j ↔ i = j := by
  unfold addressOf
  rw [UInt32.add_right_inj, ← UInt32.toNat_inj, UInt32.toNat_ofNat_of_lt' hi,
    UInt32.toNat_ofNat_of_lt' hj]
  omega

/-- Words that lie from a word's address on are fetched from there. -/
theorem fetch?_addressOf (words : List UInt32) (first : UInt32) {i : Nat} (h : 4 * i < 2 ^ 32) :
    fetch? words (4 * first) (addressOf (4 * first) i) = words[i]? := by
  have offset : addressOf (4 * first) i - 4 * first = UInt32.ofNat (4 * i) := by
    unfold addressOf
    rw [UInt32.add_comm, UInt32.add_sub_cancel]
  have aligned : (addressOf (4 * first) i).toNat % 4 = 0 := by
    unfold addressOf
    rw [UInt32.toNat_add, UInt32.toNat_mul, UInt32.toNat_ofNat_of_lt' h]
    simp only [UInt32.reduceToNat]
    omega
  rw [fetch?, if_pos aligned, offset, UInt32.toNat_ofNat_of_lt' h]
  congr 1
  omega

end CoreTrial.Machine
