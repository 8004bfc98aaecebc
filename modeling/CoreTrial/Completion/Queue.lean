import CoreTrial.Completion.Channel

/-!
# Queues of events

A channel whose events are known beforehand. They are taken strictly in order, and none before
it is due, so an event that is not due holds up those after it. One event, or none, stands in
for a device.
-/

set_option autoImplicit false

namespace CoreTrial

/-- Something that a channel offers from some time on. -/
structure ChannelEvent where
  /-- The time after which it is there, counted from the opening of the channel. -/
  due : Duration
  /-- A byte, nothing, or a failure. -/
  outcome : Except IoError (Option UInt8)

/-- The events of a channel that was opened at some time. -/
structure EventQueue where
  opened : Duration
  events : List ChannelEvent

namespace EventQueue

/-- One byte, some time after the opening. -/
def after (opened delay : Duration) (byte : UInt8) : EventQueue :=
  ⟨opened, [⟨delay, .ok (some byte)⟩]⟩

/-- No byte at all. -/
def silent (opened : Duration) : EventQueue :=
  ⟨opened, []⟩

/-- Takes the first event, when it is due. -/
def sample (now : Duration) (q : EventQueue) : EventQueue × Except IoError (Option UInt8) :=
  match q.events with
  | [] => (q, .ok none)
  | e :: rest => if q.opened + e.due ≤ now then (⟨q.opened, rest⟩, e.outcome) else (q, .ok none)

/-- The queue as a channel. -/
def channel : Channel EventQueue where
  sample now q := q.sample now

end EventQueue

end CoreTrial
