/-!
# Streams of bytes

What a program reads or prints: some bytes, and then perhaps some others again and again without
end.
-/

set_option autoImplicit false

namespace CoreTrial.Shell

/-- Bytes, and what is repeated after them. -/
structure Stream where
  bytes : List UInt8
  cycle : List UInt8 := []

namespace Stream

/-- No bytes. -/
def empty : Stream := ⟨[], []⟩

/-- The bytes of a text. -/
def ofText (s : String) : Stream := ⟨s.toUTF8.toList, []⟩

/-- Zeros without end. -/
def zeros : Stream := ⟨[], [0]⟩

/-- The stream has no end. -/
def isEndless (s : Stream) : Bool := !s.cycle.isEmpty

/-- The first `n` bytes. -/
def take (n : Nat) (s : Stream) : List UInt8 :=
  let missing := n - s.bytes.length
  s.bytes.take n ++
    if missing = 0 || s.cycle.isEmpty then []
    else (List.replicate (missing / s.cycle.length + 1) s.cycle).flatten.take missing

/-- One stream after another; nothing comes after one without end. -/
def append (s t : Stream) : Stream :=
  if s.isEndless then s else ⟨s.bytes ++ t.bytes, t.cycle⟩

/-- The stream with every byte changed or left out. -/
def filterMap (f : UInt8 → Option UInt8) (s : Stream) : Stream :=
  ⟨s.bytes.filterMap f, s.cycle.filterMap f⟩

/-- The lines of the bytes, each with its line feed. -/
def lines (s : List UInt8) : List (List UInt8) :=
  go [] s
where
  go (line : List UInt8) : List UInt8 → List (List UInt8)
    | [] => if line.isEmpty then [] else [line.reverse]
    | b :: rest => if b = 10 then (b :: line).reverse :: go [] rest else go (b :: line) rest

end Stream

end CoreTrial.Shell
