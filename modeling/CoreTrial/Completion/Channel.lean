import CoreTrial.FileSystem.Error
import CoreTrial.Time.Duration

/-!
# Completion channels

A program on a device tells that it is done by sending a byte. A channel is a source of such
bytes, read one at a time and without waiting. Whoever reads all that is there at some instant comes
to an end only if the bytes run out (`Channel.RunsDry`).
-/

set_option autoImplicit false

namespace CoreTrial

/-- A source of bytes that is part of a world. -/
structure Channel (σ : Type) where
  /-- The next byte that is there at some time, or nothing. -/
  sample : Duration → σ → σ × Except IoError (Option UInt8)

namespace Channel

variable {σ τ : Type}

/-- Reads bytes until one is the sentinel, or until none is there. Tells whether the sentinel was
seen. Without an answer, it goes on forever. -/
def drain (ch : Channel σ) (sentinel : UInt8) (now : Duration) (s : σ) :
    Option (σ × Except IoError Bool) :=
  match ch.sample now s with
  | (t, .error e) => some (t, .error e)
  | (t, .ok none) => some (t, .ok false)
  | (t, .ok (some b)) => if b = sentinel then some (t, .ok true) else ch |>.drain sentinel now t
partial_fixpoint

/-- At this time, only finitely many bytes are there before there is none or an error. -/
inductive RunsDry (ch : Channel σ) (now : Duration) : σ → Prop
  | intro {s : σ} (rest : ∀ t b, ch.sample now s = (t, .ok (some b)) → RunsDry ch now t) :
      RunsDry ch now s

/-- At any one time, only finitely many bytes are there before there is none or an error. -/
def Finite (ch : Channel σ) : Prop :=
  ∀ now s, ch.RunsDry now s

/-- The channel as part of a larger world, where it may be missing. -/
def on (ch : Channel σ) (get : τ → Option σ) (put : σ → τ → τ) : Channel τ where
  sample now t :=
    match get t with
    | none => (t, .ok none)
    | some s => (put (ch.sample now s).1 t, (ch.sample now s).2)

end Channel

end CoreTrial
