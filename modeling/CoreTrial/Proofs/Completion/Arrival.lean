import CoreTrial.Completion.Queue
import CoreTrial.Proofs.Completion.Grid
import Mathlib.Order.Bounds.Basic

/-!
# When a sentinel is seen

On a queue of bytes the sentinel can be taken when it and all bytes before it are due. A wait takes
it at its first look from then on. Draining leaves that time as it is: the bytes that are taken are
due already, and the one that holds up the others stays.
-/

set_option autoImplicit false

namespace CoreTrial

namespace EventQueue

/-- A queue of bytes, each with the time after the opening at which it is due. -/
def ofBytes (opened : Duration) (bytes : List (Duration × UInt8)) : EventQueue :=
  ⟨opened, bytes.map fun e => ⟨e.1, .ok (some e.2)⟩⟩

theorem after_eq_ofBytes (opened delay : Duration) (byte : UInt8) :
    after opened delay byte = ofBytes opened [(delay, byte)] := rfl

/-- The time after the opening at which the first sentinel can be taken: the latest one at which it
or a byte before it is due. -/
def arrival? (sentinel : UInt8) (bytes : List (Duration × UInt8)) : Option Duration :=
  (bytes.findIdx? fun e => e.2 == sentinel).bind fun i =>
    ((bytes.take (i + 1)).map fun e => e.1).max?

/-- The first sentinel can be taken at some time. -/
def Arrived (opened : Duration) (sentinel : UInt8) (bytes : List (Duration × UInt8))
    (now : Duration) : Prop :=
  ∃ due, arrival? sentinel bytes = some due ∧ opened + due ≤ now

variable {sentinel : UInt8} {opened now : Duration} {e : Duration × UInt8}
  {rest : List (Duration × UInt8)}

theorem arrival?_cons_of_eq (h : e.2 = sentinel) : arrival? sentinel (e :: rest) = some e.1 := by
  simp [arrival?, List.findIdx?_cons, h]

theorem arrival?_cons_of_ne (h : e.2 ≠ sentinel) :
    arrival? sentinel (e :: rest) = (arrival? sentinel rest).map (max e.1) := by
  simp only [arrival?, List.findIdx?_cons, beq_eq_false_iff_ne.2 h]
  cases found : rest.findIdx? fun e => e.2 == sentinel with
  | none => rfl
  | some i =>
    obtain ⟨d, rest, rfl⟩ : ∃ d tail, rest = d :: tail := by
      cases rest with
      | nil => simp at found
      | cons d tail => exact ⟨d, tail, rfl⟩
    simp [List.max?_cons]

example : arrival? 68 [(500, 10), (20, 68), (900, 68)] = some 500 := by decide

theorem arrived_cons_of_eq (h : e.2 = sentinel) :
    Arrived opened sentinel (e :: rest) now ↔ opened + e.1 ≤ now := by
  simp [Arrived, arrival?_cons_of_eq h]

/-- A byte before the sentinel holds it up until it is due itself. -/
theorem arrived_cons_of_ne (h : e.2 ≠ sentinel) :
    Arrived opened sentinel (e :: rest) now ↔
      opened + e.1 ≤ now ∧ Arrived opened sentinel rest now := by
  simp only [Arrived, arrival?_cons_of_ne h, Option.map_eq_some_iff]
  constructor
  · rintro ⟨_, ⟨due, found, rfl⟩, le⟩
    exact ⟨by grind, due, found, by grind⟩
  · rintro ⟨le, due, found, le'⟩
    exact ⟨_, ⟨due, found, rfl⟩, by grind⟩

/-- A byte that is not due holds up everything. -/
theorem not_arrived_cons (h : now < opened + e.1) :
    ¬ Arrived opened sentinel (e :: rest) now := by
  by_cases same : e.2 = sentinel
  · rw [arrived_cons_of_eq same]
    exact Nat.not_le.2 h
  · rw [arrived_cons_of_ne same]
    exact fun arrived => Nat.not_le.2 h arrived.1

theorem sample_cons_of_due (h : opened + e.1 ≤ now) :
    (ofBytes opened (e :: rest)).sample now = (ofBytes opened rest, .ok (some e.2)) := by
  simp [sample, ofBytes, h]

theorem sample_cons_of_not_due (h : now < opened + e.1) :
    (ofBytes opened (e :: rest)).sample now = (ofBytes opened (e :: rest), .ok none) := by
  simp [sample, ofBytes, Nat.not_le.2 h]

/-- The sentinel is seen exactly when it can be taken. Otherwise, what is left over holds it up for
as long as before. -/
theorem drain_ofBytes (opened : Duration) (sentinel : UInt8) (now : Duration)
    (bytes : List (Duration × UInt8)) :
    ∃ left,
      (Arrived opened sentinel bytes now ∧
        channel.drain sentinel now (ofBytes opened bytes) = some (ofBytes opened left, .ok true)) ∨
      ((∀ later, now ≤ later →
          (Arrived opened sentinel left later ↔ Arrived opened sentinel bytes later)) ∧
        ¬ Arrived opened sentinel bytes now ∧
        channel.drain sentinel now (ofBytes opened bytes) =
          some (ofBytes opened left, .ok false)) := by
  induction bytes with
  | nil =>
    refine ⟨[], .inr ⟨fun _ _ => Iff.rfl, ?_, ?_⟩⟩
    · rintro ⟨due, found, -⟩
      cases found
    · rw [Channel.drain]
      rfl
  | cons e rest ih =>
    rw [Channel.drain]
    by_cases due : opened + e.1 ≤ now
    · have taken : channel.sample now (ofBytes opened (e :: rest)) =
          (ofBytes opened rest, .ok (some e.2)) := sample_cons_of_due due
      by_cases same : e.2 = sentinel
      · refine ⟨rest, .inl ⟨(arrived_cons_of_eq same).2 due, ?_⟩⟩
        rw [taken]
        exact if_pos same
      · obtain ⟨left, ⟨arrived, seen⟩ | ⟨kept, missing, unseen⟩⟩ := ih
        · refine ⟨left, .inl ⟨(arrived_cons_of_ne same).2 ⟨due, arrived⟩, ?_⟩⟩
          rw [taken]
          exact (if_neg same).trans seen
        · refine ⟨left, .inr ⟨fun later le => ?_, ?_, ?_⟩⟩
          · rw [kept later le, arrived_cons_of_ne same]
            exact (and_iff_right (Nat.le_trans due le)).symm
          · rw [arrived_cons_of_ne same]
            exact fun arrived => missing arrived.2
          · rw [taken]
            exact (if_neg same).trans unseen
    · have held : channel.sample now (ofBytes opened (e :: rest)) =
          (ofBytes opened (e :: rest), .ok none) := sample_cons_of_not_due (Nat.not_le.1 due)
      refine ⟨e :: rest, .inr ⟨fun _ _ => Iff.rfl, not_arrived_cons (Nat.not_le.1 due), ?_⟩⟩
      rw [held]

end EventQueue

namespace Monitor

open EventQueue

/-- A wait that has come to one of its offsets goes on to the first one at which the sentinel can be
taken, or to the timeout. -/
theorem finish?_watch_ofBytes (m : Monitor) (sentinel : UInt8) (timeout opened started : Duration)
    {elapsed : Duration} (grid : m.OnGrid timeout elapsed) (bytes : List (Duration × UInt8)) :
    (∃ g left,
      IsLeast {g | m.OnGrid timeout g ∧ elapsed ≤ g ∧
        Arrived opened sentinel bytes (started + g)} g ∧
      (m.watch channel sentinel timeout started elapsed (ofBytes opened bytes)).finish?
        (started + elapsed) = some (left, .ok g, started + g)) ∨
    (¬ Arrived opened sentinel bytes (started + timeout) ∧ ∃ left,
      (m.watch channel sentinel timeout started elapsed (ofBytes opened bytes)).finish?
        (started + elapsed) =
          some (left, .error (.completionTimeout timeout timeout), started + timeout)) := by
  -- The time that is left falls from round to round.
  induction h : timeout - elapsed using Nat.strong_induction_on generalizing elapsed bytes with
  | _ time ih =>
    subst h
    rw [finish?_watch]
    obtain ⟨left, ⟨arrived, seen⟩ | ⟨kept, missing, unseen⟩⟩ :=
      drain_ofBytes opened sentinel (started + elapsed) bytes
    · rw [seen]
      exact .inl ⟨elapsed, _, ⟨⟨grid, Nat.le_refl _, arrived⟩, fun g hg => hg.2.1⟩, rfl⟩
    · rw [unseen]
      by_cases lt : elapsed < timeout
      · have later := m.lt_next lt
        have between {g : Duration} (hg : m.OnGrid timeout g) (le : elapsed ≤ g)
            (arrived : Arrived opened sentinel bytes (started + g)) :
            m.next timeout elapsed ≤ g := by
          refine grid.next_le hg (Nat.lt_of_le_of_ne le ?_)
          rintro rfl
          exact missing arrived
        dsimp only
        rw [if_pos lt]
        obtain ⟨g, rest, ⟨⟨hg, le, arrived⟩, least⟩, ends⟩ | ⟨absent, rest, ends⟩ :=
          ih _ (by lia) (grid.next lt) left rfl
        · refine .inl ⟨g, rest, ⟨⟨hg, by lia, (kept _ (by lia)).1 arrived⟩, ?_⟩, ends⟩
          rintro g' ⟨hg', le', arrived'⟩
          have step := between hg' le' arrived'
          exact least ⟨hg', step, (kept _ (by lia)).2 arrived'⟩
        · refine .inr ⟨fun arrived => absent ((kept _ (by lia)).2 arrived), rest, ends⟩
      · have spent : elapsed = timeout := Nat.le_antisymm grid.le (Nat.not_lt.1 lt)
        subst spent
        refine .inr ⟨missing, ofBytes opened left, ?_⟩
        dsimp only
        rw [if_neg lt]

/-- **A sentinel that is due by the deadline is never missed, and is measured as early as the
offsets of the looks allow.** Where the bytes of a queue bring the first sentinel by the deadline,
the wait answers with the least offset from which on it can be taken: at once if it is due already,
and less than one interval late otherwise. Where they do not, the wait ends at the timeout. -/
theorem await_ofBytes (interval : Duration) (sentinel : UInt8) (timeout opened now : Duration)
    (bytes : List (Duration × UInt8)) :
    (∃ due, arrival? sentinel bytes = some due ∧ opened + due ≤ now + timeout ∧ ∃ g left,
      ((every interval).await channel sentinel timeout now (ofBytes opened bytes)).finish? now =
        some (left, .ok g, now + g) ∧
      IsLeast {g | (every interval).OnGrid timeout g ∧ opened + due ≤ now + g} g ∧
      g ≤ timeout ∧ g < opened + due - now + max interval (Duration.ofMillis 1) ∧
      (opened + due ≤ now → g = 0)) ∨
    ((∀ due, arrival? sentinel bytes = some due → now + timeout < opened + due) ∧ ∃ left,
      ((every interval).await channel sentinel timeout now (ofBytes opened bytes)).finish? now =
        some (left, .error (.completionTimeout timeout timeout), now + timeout)) := by
  have watched := (every interval).finish?_watch_ofBytes sentinel timeout opened now
    onGrid_zero bytes
  rw [Nat.add_zero] at watched
  obtain ⟨g, left, ⟨⟨hg, -, due, found, le⟩, least⟩, ends⟩ | ⟨absent, left, ends⟩ := watched
  · have least' {g' : Duration} (hg' : (every interval).OnGrid timeout g')
        (le' : opened + due ≤ now + g') : g ≤ g' :=
      least ⟨hg', Nat.zero_le _, due, found, le'⟩
    have in_time := hg.le
    refine .inl ⟨due, found, by lia, g, left, ends, ⟨⟨hg, le⟩, fun g' h => least' h.1 h.2⟩,
      in_time, ?_, ?_⟩
    · have wanted : opened + due - now ≤ timeout := by lia
      obtain ⟨g', hg', le', soon⟩ := (every interval).exists_onGrid wanted
      exact Nat.lt_of_le_of_lt (least' hg' (by lia)) soon
    · intro early
      exact Nat.le_zero.1 (least' onGrid_zero early)
  · refine .inr ⟨fun due found => Nat.not_le.1 fun le => absent ⟨due, found, le⟩, left, ends⟩

end Monitor

end CoreTrial
