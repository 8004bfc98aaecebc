import CoreTrial.Instruction
import Mathlib.Algebra.Group.Int.Defs
import Mathlib.Algebra.Group.Nat.Defs

/-!
# Words that transfer control

How an RV32I core executes the words that jump or branch. `decode?` reads the two formats: the bits
of an offset are scattered over the word, its highest bit is the sign, and its lowest bit is always
zero and not stored. All other words are left open here.

A word loops in place when it jumps by nothing, or branches by nothing on a register being equal to
itself. Executing it leaves the program counter where it was.
-/

set_option autoImplicit false

namespace CoreTrial.Machine

open Instruction (bits opcode opcodeJal opcodeBranch)

/-- One of the 32 registers. -/
abbrev Register := Fin 32

/-- What a branch asks of two registers. -/
inductive BranchTest where
  | eq
  | ne
  | lt
  | ge
  | ltUnsigned
  | geUnsigned
  deriving DecidableEq, Repr

/-- A word that transfers control. Offsets are relative to the word's own address. -/
inductive Transfer where
  /-- Jumps, and leaves the address of the next word in a register. -/
  | jal (link : Register) (offset : Int)
  | branch (test : BranchTest) (left right : Register) (offset : Int)
  deriving DecidableEq, Repr

/-- The register that five bits of a word name. -/
def registerAt (w : UInt32) (low : Nat) : Register :=
  ⟨bits w low 5, Nat.mod_lt _ (by decide)⟩

/-- The offset of a jump: sign, bits 19 to 12, bit 11, bits 10 to 1. -/
def jumpOffset (w : UInt32) : Int :=
  bits w 12 8 * 2 ^ 12 + bits w 20 1 * 2 ^ 11 + bits w 21 10 * 2 - bits w 31 1 * 2 ^ 20

/-- The offset of a branch: sign, bit 11, bits 10 to 5, bits 4 to 1. -/
def branchOffset (w : UInt32) : Int :=
  bits w 7 1 * 2 ^ 11 + bits w 25 6 * 2 ^ 5 + bits w 8 4 * 2 - bits w 31 1 * 2 ^ 12

/-- What a branch asks, by its three bits of function; two of them are not in use. -/
def branchTest? : Nat → Option BranchTest
  | 0 => some .eq
  | 1 => some .ne
  | 4 => some .lt
  | 5 => some .ge
  | 6 => some .ltUnsigned
  | 7 => some .geUnsigned
  | _ => none

/-- The transfer that a word stands for. -/
def decode? (w : UInt32) : Option Transfer :=
  if opcode w = opcodeJal then some (.jal (registerAt w 7) (jumpOffset w))
  else if opcode w = opcodeBranch then
    (branchTest? (bits w 12 3)).map fun test =>
      .branch test (registerAt w 15) (registerAt w 20) (branchOffset w)
  else none

/-- The program counter and the registers of a core. -/
structure Core where
  pc : UInt32
  registers : Register → UInt32

namespace Core

/-- What a register holds; the first one is always zero. -/
def read (c : Core) (r : Register) : UInt32 :=
  if r = 0 then 0 else c.registers r

/-- Puts a value into a register; the first one stays zero. -/
def write (c : Core) (r : Register) (value : UInt32) : Core :=
  if r = 0 then c
  else { c with registers := fun other => if other = r then value else c.registers other }

end Core

/-- Two values pass the test of a branch. -/
def BranchTest.holds (x y : UInt32) : BranchTest → Bool
  | .eq => x == y
  | .ne => x != y
  | .lt => x.toInt32 < y.toInt32
  | .ge => y.toInt32 ≤ x.toInt32
  | .ltUnsigned => x < y
  | .geUnsigned => y ≤ x

/-- Carries out a transfer. -/
def Transfer.execute (c : Core) : Transfer → Core
  | .jal link offset => { c.write link (c.pc + 4) with pc := c.pc + UInt32.ofInt offset }
  | .branch test left right offset =>
    { c with
      pc := if test.holds (c.read left) (c.read right) then c.pc + UInt32.ofInt offset
        else c.pc + 4 }

/-- The core after it has executed a word. -/
def execute? (w : UInt32) (c : Core) : Option Core :=
  (decode? w).map (·.execute c)

/-- The word jumps or branches to itself, whatever the registers hold. -/
def LoopsInPlace (w : UInt32) : Prop :=
  (∃ link, decode? w = some (.jal link 0)) ∨ ∃ r, decode? w = some (.branch .eq r r 0)

theorem execute_jal_pc (c : Core) (link : Register) :
    (Transfer.execute c (.jal link 0)).pc = c.pc :=
  UInt32.add_zero c.pc

theorem execute_branch_eq_pc (c : Core) (r : Register) :
    (Transfer.execute c (.branch .eq r r 0)).pc = c.pc := by
  have equal : BranchTest.eq.holds (c.read r) (c.read r) = true := by simp [BranchTest.holds]
  simp only [Transfer.execute, if_pos equal]
  exact UInt32.add_zero c.pc

/-- A word that loops in place keeps the core at it. -/
theorem LoopsInPlace.execute {w : UInt32} (h : LoopsInPlace w) (c : Core) :
    ∃ c', execute? w c = some c' ∧ c'.pc = c.pc := by
  obtain ⟨link, decoded⟩ | ⟨r, decoded⟩ := h
  · exact ⟨_, by rw [execute?, decoded, Option.map_some], execute_jal_pc c link⟩
  · exact ⟨_, by rw [execute?, decoded, Option.map_some], execute_branch_eq_pc c r⟩

/-- The scattered bits of a jump's offset are all the bits from the twelfth on. -/
theorem jumpOffset_eq_zero_iff (w : UInt32) : jumpOffset w = 0 ↔ bits w 12 20 = 0 := by
  have bound := w.toNat_lt
  unfold jumpOffset bits
  simp only [Nat.pow_eq, Nat.reducePow]
  constructor <;> intro h <;> omega

/-- The scattered bits of a branch's offset are the seven highest bits and those of the register
that a branch does not write. -/
theorem branchOffset_eq_zero_iff (w : UInt32) :
    branchOffset w = 0 ↔ bits w 25 7 = 0 ∧ bits w 7 5 = 0 := by
  have bound := w.toNat_lt
  unfold branchOffset bits
  simp only [Nat.pow_eq, Nat.reducePow]
  constructor
  · intro h
    constructor <;> omega
  · rintro ⟨high, low⟩
    omega

theorem branchTest?_eq_some_eq_iff (n : Nat) : branchTest? n = some .eq ↔ n = 0 := by
  unfold branchTest?
  split <;> simp_all

theorem registerAt_eq_iff (w : UInt32) (i j : Nat) :
    registerAt w i = registerAt w j ↔ bits w i 5 = bits w j 5 :=
  Fin.ext_iff

theorem isSelfJump_iff (w : UInt32) :
    Instruction.isSelfJump w = true ↔ ∃ link, decode? w = some (.jal link 0) := by
  unfold Instruction.isSelfJump decode?
  by_cases jal : opcode w = opcodeJal
  · simp [jal, jumpOffset_eq_zero_iff]
  · have other : ∀ link, (if opcode w = opcodeBranch then
        (branchTest? (bits w 12 3)).map fun test =>
          Transfer.branch test (registerAt w 15) (registerAt w 20) (branchOffset w)
        else none) ≠ some (.jal link 0) := by
      intro link
      split <;> simp
    simp [jal, other]

theorem isSelfBranch_iff (w : UInt32) :
    Instruction.isSelfBranch w = true ↔ ∃ r, decode? w = some (.branch .eq r r 0) := by
  unfold Instruction.isSelfBranch decode?
  by_cases branch : opcode w = opcodeBranch
  · have other : opcodeBranch ≠ opcodeJal := by decide
    simp only [branch, other, if_false, if_true, beq_self_eq_true, Bool.true_and,
      Bool.and_eq_true, beq_iff_eq, Option.map_eq_some_iff, Transfer.branch.injEq]
    constructor
    · rintro ⟨⟨⟨test, same⟩, high⟩, low⟩
      refine ⟨registerAt w 15, .eq, (branchTest?_eq_some_eq_iff _).2 test, rfl, rfl, ?_, ?_⟩
      · exact ((registerAt_eq_iff w 15 20).2 same).symm
      · exact (branchOffset_eq_zero_iff w).2 ⟨high, low⟩
    · rintro ⟨r, test, asked, rfl, left, right, offset⟩
      obtain ⟨high, low⟩ := (branchOffset_eq_zero_iff w).1 offset
      have same := (registerAt_eq_iff w 15 20).1 (left.trans right.symm)
      exact ⟨⟨⟨(branchTest?_eq_some_eq_iff _).1 asked, same⟩, high⟩, low⟩
  · simp [branch]

/-- Terminators are the words that loop in place. -/
theorem isTerminator_iff (i : Instruction) : i.isTerminator = true ↔ LoopsInPlace i.word := by
  rw [Instruction.isTerminator, Bool.or_eq_true, isSelfJump_iff, isSelfBranch_iff]
  rfl

end CoreTrial.Machine
