import CoreTrial.Number.Binary64.Printer

/-!
# Durations

A duration is a number of nanoseconds.
-/

set_option autoImplicit false

namespace CoreTrial

/-- A span of time in nanoseconds. -/
abbrev Duration := Nat

namespace Duration

/-- A span of whole milliseconds. -/
def ofMillis (n : Nat) : Duration := n * 1000000

/-- A span of whole seconds. -/
def ofSeconds (n : Nat) : Duration := n * 1000000000

/-- The whole milliseconds in a span. -/
def millis (d : Duration) : Nat := d / 1000000

/-- The span in seconds: its whole seconds and its fraction, each rounded, then added. -/
def seconds (d : Duration) : Number.Binary64 :=
  Number.Binary64.ofNat (d / 1000000000)
    + Number.Binary64.ofNat (d % 1000000000) / Number.Binary64.ofNat 1000000000

/-- A count of `unit` nanoseconds with as many decimals as it needs, at most `places`. -/
def inUnit (d : Duration) (unit places : Nat) (name : String) : String :=
  let fraction := (Number.padded places (d % unit)).reverse.dropWhile (· == '0') |>.reverse
  String.ofList (Number.digits (d / unit) ++ (if fraction.isEmpty then [] else '.' :: fraction))
    ++ name

/-- A span in the largest of s, ms, µs and ns of which it has a whole one. -/
def toText (d : Duration) : String :=
  if 1000000000 ≤ d then inUnit d 1000000000 9 "s"
  else if 1000000 ≤ d then inUnit d 1000000 6 "ms"
  else if 1000 ≤ d then inUnit d 1000 3 "µs"
  else inUnit d 1 0 "ns"

/-- The first span that leads beyond all instants, which have 63 bits for their seconds. -/
def outOfReach : Duration := ofSeconds (Nat.pow 2 63)

/-- A limit as a timer keeps it. One that is out of reach is kept as thirty years. -/
def onTimer (limit : Duration) : Duration :=
  if limit < outOfReach then limit else ofSeconds (30 * 365 * 24 * 60 * 60)

@[simp] theorem millis_ofMillis (n : Nat) : millis (ofMillis n) = n := by
  simp [millis, ofMillis]

example : toText (ofMillis 1500) = "1.5s" := by decide +kernel
example : toText 1999 = "1.999µs" := by decide +kernel
example : toText 0 = "0ns" := by decide +kernel

end Duration

end CoreTrial
