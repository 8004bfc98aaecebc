import CoreTrial.Instruction

/-!
# Programs

A program has a name and ends in a terminator, so it has at least one instruction. Every way to
build one checks this.
-/

set_option autoImplicit false

namespace CoreTrial

/-- The last instruction is a terminator. -/
def endsInTerminator (instructions : List Instruction) : Bool :=
  instructions.getLast?.any (·.isTerminator)

/-- A named list of instructions that ends in a terminator. -/
structure Program where
  name : String
  instructions : List Instruction
  terminated : endsInTerminator instructions = true
  deriving DecidableEq

/-- Why there is no such program. -/
inductive ProgramError where
  | empty (name : String)
  | missingTerminator (name : String) (last : UInt32)
  | unknownBenchmark (name : String)
  deriving DecidableEq, Repr

/-- The text of the error. -/
def ProgramError.message : ProgramError → String
  | .empty name => "program '" ++ name ++ "' has no instructions"
  | .missingTerminator name last =>
    "program '" ++ name ++ "' must end in a halt or self-branch, found 0x"
      ++ String.ofList (Number.hexWord .lower last)
  | .unknownBenchmark name => "unknown benchmark '" ++ name ++ "'"

namespace Program

/-- The program of a name and its instructions. -/
def make (name : String) (instructions : List Instruction) : Except ProgramError Program :=
  if h : endsInTerminator instructions = true then .ok ⟨name, instructions, h⟩
  else match instructions.getLast? with
    | none => .error (.empty name)
    | some last => .error (.missingTerminator name last.word)

/-- The words, in order. -/
def words (p : Program) : List UInt32 :=
  p.instructions.map (·.word)

/-- The number of instructions. -/
def size (p : Program) : Nat :=
  p.instructions.length

/-- The name and the number of words. -/
def describe (p : Program) : String :=
  "Program(" ++ p.name ++ ", " ++ toString p.size ++ " words)"

/-- The record of a program. -/
def toJson (p : Program) : Json :=
  .object [("name", .string p.name), ("instructions", .array (p.instructions.map (·.toJson)))]

/-- Reads the record of a program; one that does not end in a terminator is refused. -/
def ofJson? (j : Json) : Option Program :=
  match Json.slots? ["name", "instructions"] j with
  | some [name, instructions] => do
    let name ← name.required Json.string?
    let instructions ← instructions.required (Json.list? Instruction.ofJson?)
    (make name instructions).toOption
  | _ => none

theorem instructions_ne_nil (p : Program) : p.instructions ≠ [] := by
  intro h
  have := p.terminated
  simp [endsInTerminator, h] at this

end Program

end CoreTrial
