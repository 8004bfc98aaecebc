import CoreTrial.Number.Hex
import CoreTrial.Json.Record

/-!
# Instructions

A 32-bit RISC-V word with a comment. A terminator is a word that jumps or branches to itself, so
that a program that ends in one never runs past its end.
-/

set_option autoImplicit false

namespace CoreTrial

/-- A word of machine code and what it does. -/
structure Instruction where
  word : UInt32
  comment : String
  deriving DecidableEq, Repr

namespace Instruction

/-- The bits of a word from place `low` on, `width` of them. -/
def bits (w : UInt32) (low width : Nat) : Nat :=
  w.toNat / Nat.pow 2 low % Nat.pow 2 width

/-- The seven lowest bits say which kind of instruction a word is. -/
def opcode (w : UInt32) : Nat := bits w 0 7

/-- The opcode of a jump that links. -/
def opcodeJal : Nat := 0x6F

/-- The opcode of a branch. -/
def opcodeBranch : Nat := 0x63

/-- A jump to itself: all bits of the offset are zero. -/
def isSelfJump (w : UInt32) : Bool :=
  opcode w == opcodeJal && bits w 12 20 == 0

/-- A branch to itself that is always taken: it asks whether a register equals itself, and all
bits of the offset are zero. -/
def isSelfBranch (w : UInt32) : Bool :=
  opcode w == opcodeBranch && bits w 12 3 == 0 && bits w 15 5 == bits w 20 5
    && bits w 25 7 == 0 && bits w 7 5 == 0

/-- A jump or an always taken branch to itself. -/
def isTerminator (i : Instruction) : Bool :=
  isSelfJump i.word || isSelfBranch i.word

/-- The word and the comment. -/
def describe (i : Instruction) : String :=
  String.ofList (Number.hexWord .upper i.word) ++ "  " ++ i.comment

/-- The record of an instruction. -/
def toJson (i : Instruction) : Json :=
  .object [("word", .nat i.word.toNat), ("comment", .string i.comment)]

/-- Reads the record of an instruction. -/
def ofJson? (j : Json) : Option Instruction :=
  match Json.slots? ["word", "comment"] j with
  | some [word, comment] => do
    return ⟨← word.required Json.word32?, ← comment.required Json.string?⟩
  | _ => none

end Instruction

end CoreTrial
