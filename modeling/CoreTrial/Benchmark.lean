import CoreTrial.Program

/-!
# Built-in benchmarks

The programs that are known by name.
-/

set_option autoImplicit false

namespace CoreTrial.Benchmark

/-- Adds two numbers a hundred times, waits until the serial line can send, sends the letter D
and stops. -/
def matmulInstructions : List Instruction := [
  ⟨0x200001B7, "LUI x3, 0x20000 (UART Base)"⟩,
  ⟨0x00A00093, "ADDI x1, x0, 10"⟩,
  ⟨0x01400113, "ADDI x2, x0, 20"⟩,
  ⟨0x06400293, "ADDI x5, x0, 100"⟩,
  ⟨0x00208233, "ADD x4, x1, x2"⟩,
  ⟨0xFFF28293, "ADDI x5, x5, -1"⟩,
  ⟨0xFE029CE3, "BNE x5, x0, -4"⟩,
  ⟨0x0041A303, "LW x6, 4(x3) (Read Status)"⟩,
  ⟨0x00237313, "ANDI x6, x6, 2 (Check TX Ready)"⟩,
  ⟨0xFE030CE3, "BEQ x6, x0, -8"⟩,
  ⟨0x04400393, "ADDI x7, x0, 68 ('D')"⟩,
  ⟨0x0071A023, "SW x7, 0(x3)"⟩,
  ⟨0x0000006F, "JAL x0, 0 (Halt)"⟩]

/-- The benchmark `matmul`. -/
def matmul : Program :=
  ⟨"matmul", matmulInstructions, by decide⟩

/-- All benchmarks. -/
def all : List Program := [matmul]

/-- The benchmark of a name. -/
def byName (name : String) : Except ProgramError Program :=
  match named? name with
  | some p => .ok p
  | none => .error (.unknownBenchmark name)
where
  named? (name : String) : Option Program := all.find? fun p => p.name == name

end CoreTrial.Benchmark
