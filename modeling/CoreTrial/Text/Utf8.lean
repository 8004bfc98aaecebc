/-!
# UTF-8

`decodeLossy` reads any bytes as text: well-formed sequences stand for their characters, and
each maximal part of an ill-formed one for a single replacement character. Reading bytes as
text without loss is `String.fromUTF8?`.
-/

set_option autoImplicit false

namespace CoreTrial.Text

/-- What a lead byte says: the bits it holds, and the ranges of the bytes that must follow. -/
def leadByte (b : Nat) : Option (Nat × List (Nat × Nat)) :=
  if b < 0x80 then some (b, [])
  else if b < 0xC2 then none
  else if b < 0xE0 then some (b - 0xC0, [(0x80, 0xBF)])
  else if b = 0xE0 then some (0, [(0xA0, 0xBF), (0x80, 0xBF)])
  else if b = 0xED then some (0xD, [(0x80, 0x9F), (0x80, 0xBF)])
  else if b < 0xF0 then some (b - 0xE0, [(0x80, 0xBF), (0x80, 0xBF)])
  else if b = 0xF0 then some (0, [(0x90, 0xBF), (0x80, 0xBF), (0x80, 0xBF)])
  else if b < 0xF4 then some (b - 0xF0, [(0x80, 0xBF), (0x80, 0xBF), (0x80, 0xBF)])
  else if b = 0xF4 then some (4, [(0x80, 0x8F), (0x80, 0xBF), (0x80, 0xBF)])
  else none

/-- Reads the bytes that must follow a lead byte, `bits` being what was read so far. Stops before
the first byte that does not fit. -/
def trailBytes (bits : Nat) : List (Nat × Nat) → List UInt8 → Char × List UInt8
  | [], rest => (Char.ofNat bits, rest)
  | _ :: _, [] => (Char.ofNat 0xFFFD, [])
  | (lo, hi) :: ranges, b :: rest =>
    if lo ≤ b.toNat ∧ b.toNat ≤ hi then trailBytes (bits * 64 + (b.toNat - 0x80)) ranges rest
    else (Char.ofNat 0xFFFD, b :: rest)

/-- The first character of a non-empty run of bytes, and the bytes after it. -/
def decodeStep (b : UInt8) (rest : List UInt8) : Char × List UInt8 :=
  match leadByte b.toNat with
  | some (bits, ranges) => trailBytes bits ranges rest
  | none => (Char.ofNat 0xFFFD, rest)

theorem length_trailBytes (bits : Nat) (ranges : List (Nat × Nat)) (bytes : List UInt8) :
    (trailBytes bits ranges bytes).2.length ≤ bytes.length := by
  induction ranges generalizing bits bytes with
  | nil => simp [trailBytes]
  | cons r ranges ih =>
    cases bytes with
    | nil => simp [trailBytes]
    | cons b rest =>
      obtain ⟨lo, hi⟩ := r
      simp only [trailBytes]
      split
      · exact Nat.le_succ_of_le (ih _ _)
      · simp

theorem length_decodeStep (b : UInt8) (rest : List UInt8) :
    (decodeStep b rest).2.length ≤ rest.length := by
  unfold decodeStep
  split
  · exact length_trailBytes _ _ _
  · exact Nat.le_refl _

/-- The characters of a run of bytes after those in `read`, which is kept backwards. -/
def decodeFrom (read : List Char) (bytes : List UInt8) : List Char :=
  match bytes with
  | [] => read.reverse
  | b :: rest => decodeFrom ((decodeStep b rest).1 :: read) (decodeStep b rest).2
termination_by bytes.length
decreasing_by
  have := length_decodeStep b rest
  simp only [List.length_cons]
  omega

/-- The text of any bytes, with a replacement character for each maximal ill-formed part. -/
def decodeLossy (bytes : ByteArray) : String :=
  match String.fromUTF8? bytes with
  | some s => s
  | none => String.ofList (decodeFrom [] bytes.toList)

end CoreTrial.Text
