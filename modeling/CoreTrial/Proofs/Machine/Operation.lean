import CoreTrial.Proofs.Machine.Transfer

/-!
# Words that compute, load and store

How an RV32I core executes the words that are no transfer: they compute on registers, load, store,
or jump to where a register says. `operation?` reads all formats. A load and a store are accesses
to what is outside of the core: a load takes a value from there, a store puts one there. Fences and
calls of the environment are left open.
-/

set_option autoImplicit false

namespace CoreTrial.Machine

open Instruction (bits opcode)

/-- What a word computes of two operands. -/
inductive Arithmetic where
  | add
  | sub
  | shiftLeft
  | less
  | lessUnsigned
  | xor
  | shiftRight
  | shiftRightSigned
  | or
  | and
  deriving DecidableEq, Repr

/-- How much is loaded or stored. -/
inductive Width where
  | byte
  | half
  | word
  deriving DecidableEq, Repr

/-- A word that a core executes. The numbers that a word holds are signed. -/
inductive Operation where
  | upper (target : Register) (value : Int)
  /-- Adds to the word's own address. -/
  | upperFromHere (target : Register) (value : Int)
  | withConstant (what : Arithmetic) (target left : Register) (value : Int)
  | withRegister (what : Arithmetic) (target left right : Register)
  | load (width : Width) (signed : Bool) (target base : Register) (offset : Int)
  | store (width : Width) (base source : Register) (offset : Int)
  /-- Jumps to where a register says, and leaves the address of the next word in another. -/
  | jumpTo (link base : Register) (offset : Int)
  | transfer (t : Transfer)
  deriving DecidableEq, Repr

/-- The twelve highest bits, of which the first is the sign. -/
def highConstant (w : UInt32) : Int :=
  bits w 20 11 - bits w 31 1 * 2 ^ 11

/-- The constant of a store: the seven highest bits, then those where others name a target. -/
def splitConstant (w : UInt32) : Int :=
  bits w 25 6 * 2 ^ 5 + bits w 7 5 - bits w 31 1 * 2 ^ 11

/-- The twenty highest bits, at their place. -/
def upperConstant (w : UInt32) : Int :=
  bits w 12 20 * 2 ^ 12

/-- What is computed, by the three bits of function and the seven highest bits. -/
def arithmetic? : Nat → Nat → Option Arithmetic
  | 0, 0 => some .add
  | 0, 0x20 => some .sub
  | 1, 0 => some .shiftLeft
  | 2, 0 => some .less
  | 3, 0 => some .lessUnsigned
  | 4, 0 => some .xor
  | 5, 0 => some .shiftRight
  | 5, 0x20 => some .shiftRightSigned
  | 6, 0 => some .or
  | 7, 0 => some .and
  | _, _ => none

/-- How much a load or a store moves, by the two lowest bits of function. -/
def width? : Nat → Option Width
  | 0 => some .byte
  | 1 => some .half
  | 2 => some .word
  | _ => none

/-- A word that computes with a constant. Where it shifts, the constant is the number of places,
and the seven highest bits say how. -/
def withConstant? (w : UInt32) : Option Operation :=
  let function := bits w 12 3
  if function = 1 ∨ function = 5 then
    (arithmetic? function (bits w 25 7)).map fun what =>
      .withConstant what (registerAt w 7) (registerAt w 15) (bits w 20 5)
  else
    (arithmetic? function 0).map fun what =>
      .withConstant what (registerAt w 7) (registerAt w 15) (highConstant w)

/-- A word that loads; its third bit of function says that what is less than a word is filled up
with zeros. -/
def load? (w : UInt32) : Option Operation :=
  let unsigned := bits w 14 1 = 1
  match width? (bits w 12 2) with
  | none => none
  | some width =>
    if unsigned ∧ width = .word then none
    else some (.load width (!unsigned) (registerAt w 7) (registerAt w 15) (highConstant w))

/-- The operation that a word stands for. -/
def operation? (w : UInt32) : Option Operation :=
  match opcode w with
  | 0x37 => some (.upper (registerAt w 7) (upperConstant w))
  | 0x17 => some (.upperFromHere (registerAt w 7) (upperConstant w))
  | 0x13 => withConstant? w
  | 0x33 => (arithmetic? (bits w 12 3) (bits w 25 7)).map fun what =>
    .withRegister what (registerAt w 7) (registerAt w 15) (registerAt w 20)
  | 0x03 => load? w
  | 0x23 => if bits w 14 1 = 1 then none else (width? (bits w 12 2)).map fun width =>
    .store width (registerAt w 15) (registerAt w 20) (splitConstant w)
  | 0x67 => if bits w 12 3 = 0 then
    some (.jumpTo (registerAt w 7) (registerAt w 15) (highConstant w)) else none
  | _ => (decode? w).map .transfer

/-- A load or a store, at an address. -/
inductive Access where
  /-- This value was there. -/
  | load (width : Width) (address value : UInt32)
  | store (width : Width) (address value : UInt32)
  deriving DecidableEq, Repr

/-- The result of a computation. Shifts take their number of places modulo 32. -/
def Arithmetic.compute (x y : UInt32) : Arithmetic → UInt32
  | .add => x + y
  | .sub => x - y
  | .shiftLeft => x <<< y
  | .less => if x.toInt32 < y.toInt32 then 1 else 0
  | .lessUnsigned => if x < y then 1 else 0
  | .xor => x ^^^ y
  | .shiftRight => x >>> y
  | .shiftRightSigned => (x.toInt32 >>> y.toInt32).toUInt32
  | .or => x ||| y
  | .and => x &&& y

/-- What a register holds after a load of this width: the lowest bits of what was there, filled up
with their sign or with zeros. -/
def Width.fill (signed : Bool) (value : UInt32) : Width → UInt32
  | .byte => if signed then value.toUInt8.toInt8.toInt32.toUInt32 else value.toUInt8.toUInt32
  | .half => if signed then value.toUInt16.toInt16.toInt32.toUInt32 else value.toUInt16.toUInt32
  | .word => value

namespace Core

/-- The core at the next word. -/
def next (c : Core) : Core := { c with pc := c.pc + 4 }

/-- The core at the next word, with a value in a register. -/
def put (c : Core) (r : Register) (value : UInt32) : Core := (c.write r value).next

@[simp] theorem pc_next (c : Core) : c.next.pc = c.pc + 4 := rfl

@[simp] theorem read_withPc (c : Core) (pc : UInt32) (r : Register) :
    ({ c with pc := pc } : Core).read r = c.read r := rfl

@[simp] theorem read_zero (c : Core) : c.read 0 = 0 := rfl

theorem read_write_self (c : Core) {r : Register} (h : r ≠ 0) (value : UInt32) :
    (c.write r value).read r = value := by
  rw [write, if_neg h, read, if_neg h]
  exact if_pos rfl

theorem read_write_of_ne (c : Core) {r other : Register} (h : other ≠ r) (value : UInt32) :
    (c.write r value).read other = c.read other := by
  by_cases zero : r = 0
  · rw [write, if_pos zero]
  · rw [write, if_neg zero, read, read]
    exact congrArg _ (if_neg h)

@[simp] theorem pc_put (c : Core) (r : Register) (value : UInt32) :
    (c.put r value).pc = c.pc + 4 := by
  rw [put, pc_next, write]
  split <;> rfl

theorem read_put_self (c : Core) {r : Register} (h : r ≠ 0) (value : UInt32) :
    (c.put r value).read r = value :=
  c.read_write_self h value

theorem read_put_of_ne (c : Core) {r other : Register} (h : other ≠ r) (value : UInt32) :
    (c.put r value).read other = c.read other :=
  c.read_write_of_ne h value

end Core

/-- Carries out an operation; a load finds the value `there`. -/
def Operation.execute (there : UInt32) (c : Core) : Operation → Core × Option Access
  | .upper target value => (c.put target (.ofInt value), none)
  | .upperFromHere target value => (c.put target (c.pc + .ofInt value), none)
  | .withConstant what target left value =>
    (c.put target (what.compute (c.read left) (.ofInt value)), none)
  | .withRegister what target left right =>
    (c.put target (what.compute (c.read left) (c.read right)), none)
  | .load width signed target base offset =>
    (c.put target (width.fill signed there), some (.load width (c.read base + .ofInt offset) there))
  | .store width base source offset =>
    (c.next, some (.store width (c.read base + .ofInt offset) (c.read source)))
  | .jumpTo link base offset =>
    ({ c.write link (c.pc + 4) with pc := (c.read base + .ofInt offset) &&& 0xFFFFFFFE }, none)
  | .transfer t => (t.execute c, none)

section Branch

variable {c : Core} {test : BranchTest} {left right : Register} {offset : Int}

theorem execute_branch_of_holds (taken : test.holds (c.read left) (c.read right) = true)
    (there : UInt32) :
    (Operation.transfer (.branch test left right offset)).execute there c =
      ({ c with pc := c.pc + .ofInt offset }, none) := by
  simp only [Operation.execute, Transfer.execute, if_pos taken]

theorem execute_branch_of_not_holds (passed : ¬ test.holds (c.read left) (c.read right) = true)
    (there : UInt32) :
    (Operation.transfer (.branch test left right offset)).execute there c = (c.next, none) := by
  simp only [Operation.execute, Transfer.execute, if_neg passed]
  rfl

end Branch

/-- A word that transfers control is executed as such. -/
theorem operation?_of_decode? {w : UInt32} {t : Transfer} (h : decode? w = some t) :
    operation? w = some (.transfer t) := by
  have kind : opcode w = 0x6F ∨ opcode w = 0x63 := by
    unfold decode? at h
    split at h
    · exact .inl ‹_›
    · split at h
      · exact .inr ‹_›
      · cases h
  unfold operation?
  rcases kind with jump | branch
  · simp only [jump, h, Option.map_some]
  · simp only [branch, h, Option.map_some]

end CoreTrial.Machine
