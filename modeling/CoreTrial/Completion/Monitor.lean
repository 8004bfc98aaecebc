import CoreTrial.Activity
import CoreTrial.Completion.Channel

/-!
# Completion monitors

A monitor waits for the sentinel on a channel: it reads what is there, pauses, and reads again.
The last pause is cut so that the channel is read once more exactly at the end of the time, and
only then is the sentinel given up. Where the bytes that are there do not run out, no pause comes.
-/

set_option autoImplicit false

namespace CoreTrial

/-- Why a completion was not measured. -/
inductive MonitorError where
  | completionTimeout (timeout elapsed : Duration)
  | channel (cause : IoError)
  deriving DecidableEq, Repr

/-- The text of the error. -/
def MonitorError.message : MonitorError → String
  | .completionTimeout timeout elapsed =>
    "Completion signal not seen within " ++ timeout.toText ++ " (waited " ++ elapsed.toText ++ ")"
  | .channel cause => "Completion channel error: " ++ cause.message

/-- How often a channel is read. -/
structure Monitor where
  pollInterval : Duration
  pollInterval_pos : 0 < pollInterval

namespace Monitor

/-- The shortest pause between two looks. -/
def leastInterval : Duration := Duration.ofMillis 1

/-- A monitor with this pause between two looks, or the shortest one. -/
def every (interval : Duration) : Monitor where
  pollInterval := max interval leastInterval
  pollInterval_pos := Nat.lt_of_lt_of_le (by decide) (Nat.le_max_right interval leastInterval)

/-- The monitor that is used where none is set up. -/
def default : Monitor := every (Duration.ofMillis 10)

variable {σ : Type}

/-- Waits on for the sentinel, `elapsed` after the start of the wait. -/
def watch (m : Monitor) (ch : Channel σ) (sentinel : UInt8) (timeout started elapsed : Duration)
    (world : σ) : Activity σ (Except MonitorError Duration) :=
  match ch.drain sentinel (started + elapsed) world with
  | none => .spins world
  | some (world, .error e) => .done world (.error (.channel e))
  | some (world, .ok true) => .done world (.ok elapsed)
  | some (world, .ok false) =>
    if _h : elapsed < timeout then
      let pause := min m.pollInterval (timeout - elapsed)
      .wait world pause fun _ => watch m ch sentinel timeout started (elapsed + pause) world
    else .done world (.error (.completionTimeout timeout elapsed))
termination_by timeout - elapsed
decreasing_by
  have : 0 < min m.pollInterval (timeout - elapsed) :=
    Nat.lt_min.2 ⟨m.pollInterval_pos, Nat.sub_pos_of_lt _h⟩
  exact Nat.sub_lt_sub_left _h (Nat.lt_add_of_pos_right this)

/-- Waits for the sentinel; tells how long it took. -/
def await (m : Monitor) (ch : Channel σ) (sentinel : UInt8) (timeout : Duration) :
    Work σ (Except MonitorError Duration) :=
  fun now world => m.watch ch sentinel timeout now 0 world

end Monitor

end CoreTrial
