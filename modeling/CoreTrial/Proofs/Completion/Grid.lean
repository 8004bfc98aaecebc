import CoreTrial.Completion.Monitor

/-!
# When a wait looks at its channel

A wait looks at its channel at the multiples of its interval below the timeout, and at the timeout
itself. `finish?_watch` is one round of it: what is there is drained, and the wait goes on from the
next of these offsets only where the sentinel was not seen.
-/

set_option autoImplicit false

namespace CoreTrial.Monitor

variable {m : Monitor} {timeout elapsed g : Duration}

/-- The offsets at which a wait looks at its channel. -/
def OnGrid (m : Monitor) (timeout g : Duration) : Prop :=
  (m.pollInterval ∣ g ∧ g < timeout) ∨ g = timeout

/-- The offset at which a wait looks again. -/
def next (m : Monitor) (timeout elapsed : Duration) : Duration :=
  elapsed + min m.pollInterval (timeout - elapsed)

theorem onGrid_zero : m.OnGrid timeout 0 := by
  by_cases h : 0 < timeout
  · exact .inl ⟨Nat.dvd_zero _, h⟩
  · exact .inr (by lia)

theorem OnGrid.le (h : m.OnGrid timeout g) : g ≤ timeout := by
  obtain ⟨-, lt⟩ | rfl := h
  · exact Nat.le_of_lt lt
  · exact Nat.le_refl _

theorem lt_next (lt : elapsed < timeout) : elapsed < m.next timeout elapsed := by
  have := m.pollInterval_pos
  unfold next
  lia

/-- The next look is one of the offsets. -/
theorem OnGrid.next (h : m.OnGrid timeout elapsed) (lt : elapsed < timeout) :
    m.OnGrid timeout (m.next timeout elapsed) := by
  obtain ⟨multiple, -⟩ | rfl := h
  · by_cases fits : elapsed + m.pollInterval < timeout
    · have whole : m.next timeout elapsed = elapsed + m.pollInterval := by
        unfold Monitor.next
        lia
      rw [whole]
      exact .inl ⟨Nat.dvd_add multiple (Nat.dvd_refl _), fits⟩
    · refine .inr ?_
      unfold Monitor.next
      lia
  · exact absurd lt (Nat.lt_irrefl _)

/-- No offset lies between a look and the next one. -/
theorem OnGrid.next_le (h : m.OnGrid timeout elapsed) (hg : m.OnGrid timeout g)
    (lt : elapsed < g) : m.next timeout elapsed ≤ g := by
  have le := hg.le
  obtain ⟨multiple, -⟩ | rfl := h
  · obtain ⟨multiple', -⟩ | rfl := hg
    · have apart : m.pollInterval ≤ g - elapsed :=
        Nat.le_of_dvd (by lia) (Nat.dvd_sub multiple' multiple)
      unfold Monitor.next
      lia
    · unfold Monitor.next
      lia
  · exact absurd lt (Nat.not_lt.2 le)

/-- By the timeout, less than an interval passes until the next look. -/
theorem exists_onGrid (m : Monitor) {offset : Duration} (le : offset ≤ timeout) :
    ∃ g, m.OnGrid timeout g ∧ offset ≤ g ∧ g < offset + m.pollInterval := by
  have pos := m.pollInterval_pos
  have above := Nat.lt_div_mul_add (a := offset + (m.pollInterval - 1)) pos
  have below := Nat.div_mul_le_self (offset + (m.pollInterval - 1)) m.pollInterval
  -- `offset` rounded up to a multiple of the interval.
  have multiple : m.pollInterval ∣
      (offset + (m.pollInterval - 1)) / m.pollInterval * m.pollInterval :=
    Nat.dvd_mul_left _ _
  generalize (offset + (m.pollInterval - 1)) / m.pollInterval * m.pollInterval = c at *
  by_cases fits : c < timeout
  · exact ⟨c, .inl ⟨multiple, fits⟩, by lia, by lia⟩
  · exact ⟨timeout, .inr rfl, le, by lia⟩

variable {σ : Type}

/-- One round of a wait. -/
theorem finish?_watch (m : Monitor) (ch : Channel σ) (sentinel : UInt8)
    (timeout started elapsed : Duration) (world : σ) :
    (m.watch ch sentinel timeout started elapsed world).finish? (started + elapsed) =
      match ch.drain sentinel (started + elapsed) world with
      | none => none
      | some (w, .error e) => some (w, .error (.channel e), started + elapsed)
      | some (w, .ok true) => some (w, .ok elapsed, started + elapsed)
      | some (w, .ok false) =>
        if elapsed < timeout then
          (m.watch ch sentinel timeout started (m.next timeout elapsed) w).finish?
            (started + m.next timeout elapsed)
        else some (w, .error (.completionTimeout timeout elapsed), started + elapsed) := by
  rw [watch]
  match ch.drain sentinel (started + elapsed) world with
  | none => rfl
  | some (w, .error e) => rfl
  | some (w, .ok true) => rfl
  | some (w, .ok false) =>
    dsimp only
    split
    · rw [Activity.finish?, Nat.add_assoc]
      rfl
    · rfl

/-- A wait whose first look sees nothing and whose second sees the sentinel. -/
theorem finish?_await_of_second (m : Monitor) (ch : Channel σ) (sentinel : UInt8)
    {timeout now : Duration} {w u v : σ} (pending : 0 < timeout)
    (silent : ch.drain sentinel now w = some (u, .ok false))
    (sent : ch.drain sentinel (now + m.next timeout 0) u = some (v, .ok true)) :
    (m.await ch sentinel timeout now w).finish? now =
      some (v, .ok (m.next timeout 0), now + m.next timeout 0) := by
  have first := m.finish?_watch ch sentinel timeout now 0 w
  have second := m.finish?_watch ch sentinel timeout now (m.next timeout 0) u
  rw [Nat.add_zero, silent] at first
  dsimp only at first
  rw [if_pos pending] at first
  rw [sent] at second
  exact first.trans second

end CoreTrial.Monitor
