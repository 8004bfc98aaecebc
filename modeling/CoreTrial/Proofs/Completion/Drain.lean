import CoreTrial.Completion.Monitor
import CoreTrial.Proofs.Activity.Limit

/-!
# Reading all that is there

A look at a channel reads its bytes until there is none. `Drains` says how it comes to an end, one
sample at a time. It does so where the bytes run dry, and without an end it goes on forever
(`drain_eq_none`), and so does the wait that the look belongs to.
-/

set_option autoImplicit false

namespace CoreTrial

variable {σ : Type}

namespace Channel

/-- A look from one state that ends in another, and what it sees. -/
inductive Drains (ch : Channel σ) (sentinel : UInt8) (now : Duration) :
    σ → σ → Except IoError Bool → Prop
  | failed {s t : σ} {e : IoError} (sampled : ch.sample now s = (t, .error e)) :
      Drains ch sentinel now s t (.error e)
  | nothing {s t : σ} (sampled : ch.sample now s = (t, .ok none)) :
      Drains ch sentinel now s t (.ok false)
  | seen {s t : σ} (sampled : ch.sample now s = (t, .ok (some sentinel))) :
      Drains ch sentinel now s t (.ok true)
  | passed {s t v : σ} {b : UInt8} {look : Except IoError Bool}
      (sampled : ch.sample now s = (t, .ok (some b))) (other : b ≠ sentinel)
      (rest : Drains ch sentinel now t v look) : Drains ch sentinel now s v look

variable {ch : Channel σ} {sentinel : UInt8} {now : Duration} {s t : σ}
  {look : Except IoError Bool}

theorem Drains.drain_eq (h : ch.Drains sentinel now s t look) :
    ch.drain sentinel now s = some (t, look) := by
  induction h with
  | failed sampled => rw [drain, sampled]
  | nothing sampled => rw [drain, sampled]
  | seen sampled =>
    rw [drain, sampled]
    exact if_pos rfl
  | passed sampled other _ ih =>
    rw [drain, sampled]
    exact (if_neg other).trans ih

theorem drain_eq_some_iff :
    ch.drain sentinel now s = some (t, look) ↔ ch.Drains sentinel now s t look := by
  refine ⟨fun drained => ?_, Drains.drain_eq⟩
  refine drain.partial_correctness ch sentinel now
    (fun s r => ch.Drains sentinel now s r.1 r.2) ?_ s (t, look) drained
  intro later ih s r result
  split at result
  next sampled =>
    cases result
    exact .failed sampled
  next sampled =>
    cases result
    exact .nothing sampled
  next b sampled =>
    split at result
    next same =>
      cases result
      exact .seen (same ▸ sampled)
    next other => exact .passed sampled other (ih _ _ result)

/-- A look ends where the bytes run dry. -/
theorem RunsDry.exists_drain (dry : ch.RunsDry now s) (sentinel : UInt8) :
    ∃ t look, ch.drain sentinel now s = some (t, look) := by
  simp only [drain_eq_some_iff]
  induction dry with
  | @intro s rest ih =>
    match sampled : ch.sample now s with
    | (t, .error e) => exact ⟨t, _, .failed sampled⟩
    | (t, .ok none) => exact ⟨t, _, .nothing sampled⟩
    | (t, .ok (some b)) =>
      by_cases same : b = sentinel
      · exact ⟨t, _, .seen (same ▸ sampled)⟩
      · obtain ⟨v, look, drains⟩ := ih t b sampled
        exact ⟨v, look, .passed sampled same drains⟩

/-- A channel runs dry where each byte leaves less of something behind. -/
theorem Finite.of_falls (held : Duration → σ → Nat)
    (falls : ∀ {now s t b}, ch.sample now s = (t, .ok (some b)) → held now t < held now s) :
    ch.Finite := by
  intro now s
  induction h : held now s using Nat.strongRecOn generalizing s with
  | ind n ih =>
    subst h
    exact .intro fun t b sampled => ih _ (falls sampled) t rfl

end Channel

namespace Monitor

variable {ch : Channel σ} {sentinel : UInt8} {timeout started elapsed : Duration} {w : σ}

/-- Where a look has no end, the wait goes on forever at that instant. -/
theorem watch_of_drain_none (m : Monitor)
    (endless : ch.drain sentinel (started + elapsed) w = none) :
    m.watch ch sentinel timeout started elapsed w = .spins w := by
  rw [watch, endless]

/-- A wait on a channel that runs dry at all times does not spin. -/
theorem spin?_watch (m : Monitor) (finite : ch.Finite) (sentinel : UInt8)
    (timeout started elapsed : Duration) (w : σ) :
    (m.watch ch sentinel timeout started elapsed w).spin? = none := by
  fun_induction watch m ch sentinel timeout started elapsed w with
  | case1 elapsed w endless =>
    obtain ⟨t, look, drained⟩ := (finite (started + elapsed) w).exists_drain sentinel
    cases endless.symm.trans drained
  | case4 elapsed w v drained lt pause ih => exact ih
  | _ => rfl

end Monitor

end CoreTrial
