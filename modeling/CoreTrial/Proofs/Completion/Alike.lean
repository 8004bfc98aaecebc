import CoreTrial.Proofs.Activity.Alike
import CoreTrial.Proofs.Completion.Drain

/-!
# Waits on channels that answer alike

Two channels answer alike from two starts when samples taken equally long after these starts bring
the same, as long as `R` holds of their worlds, and `R` goes on to hold. Waits on them are then
alike from round to round.
-/

set_option autoImplicit false

namespace CoreTrial

variable {σ τ : Type} {R : σ → τ → Prop} {started started' : Duration} {ch : Channel σ}
  {ch' : Channel τ}

namespace Channel

/-- Samples of both channels bring the same when they are taken equally long after two starts. -/
def Alike (R : σ → τ → Prop) (started started' : Duration) (ch : Channel σ) (ch' : Channel τ) :
    Prop :=
  ∀ elapsed w v, R w v →
    (ch.sample (started + elapsed) w).2 = (ch'.sample (started' + elapsed) v).2 ∧
      R (ch.sample (started + elapsed) w).1 (ch'.sample (started' + elapsed) v).1

/-- The other channel brings what one of them has brought. -/
theorem Alike.sample (h : Alike R started started' ch ch') {elapsed : Duration} {w t : σ} {v : τ}
    {r : Except IoError (Option UInt8)} (related : R w v)
    (sampled : ch.sample (started + elapsed) w = (t, r)) :
    ∃ u, ch'.sample (started' + elapsed) v = (u, r) ∧ R t u := by
  obtain ⟨answer, on⟩ := h elapsed w v related
  rw [sampled] at answer on
  exact ⟨_, Prod.ext rfl answer.symm, on⟩

theorem Alike.symm (h : Alike R started started' ch ch') :
    Alike (fun v w => R w v) started' started ch' ch := by
  intro elapsed v w related
  obtain ⟨answer, on⟩ := h elapsed w v related
  exact ⟨answer.symm, on⟩

variable {sentinel : UInt8} {elapsed : Duration} {w t : σ} {v : τ} {look : Except IoError Bool}

/-- A look at the other channel sees what a look at one of them has seen. -/
theorem Alike.drains (h : Alike R started started' ch ch')
    (drains : ch.Drains sentinel (started + elapsed) w t look) (related : R w v) :
    ∃ u, ch'.Drains sentinel (started' + elapsed) v u look ∧ R t u := by
  induction drains generalizing v with
  | failed sampled =>
    obtain ⟨u, sampled', related'⟩ := h.sample related sampled
    exact ⟨u, .failed sampled', related'⟩
  | nothing sampled =>
    obtain ⟨u, sampled', related'⟩ := h.sample related sampled
    exact ⟨u, .nothing sampled', related'⟩
  | seen sampled =>
    obtain ⟨u, sampled', related'⟩ := h.sample related sampled
    exact ⟨u, .seen sampled', related'⟩
  | passed sampled other _ ih =>
    obtain ⟨u, sampled', related'⟩ := h.sample related sampled
    obtain ⟨u', drains', related''⟩ := ih related'
    exact ⟨u', .passed sampled' other drains', related''⟩

theorem Alike.drain (h : Alike R started started' ch ch') (related : R w v)
    (drained : ch.drain sentinel (started + elapsed) w = some (t, look)) :
    ∃ u, ch'.drain sentinel (started' + elapsed) v = some (u, look) ∧ R t u := by
  obtain ⟨u, drains, related'⟩ := h.drains (drain_eq_some_iff.1 drained) related
  exact ⟨u, drains.drain_eq, related'⟩

/-- A look at the other channel has no end either. -/
theorem Alike.drain_none (h : Alike R started started' ch ch') (related : R w v)
    (endless : ch.drain sentinel (started + elapsed) w = none) :
    ch'.drain sentinel (started' + elapsed) v = none := by
  refine Option.eq_none_iff_forall_ne_some.2 ?_
  rintro ⟨u, look⟩ drained
  obtain ⟨t, drained', -⟩ := h.symm.drain related drained
  cases endless.symm.trans drained'

end Channel

/-- Waits on channels that answer alike are alike. -/
theorem Monitor.watch_alike (m : Monitor) (h : Channel.Alike R started started' ch ch')
    (sentinel : UInt8) (timeout elapsed : Duration) {w : σ} :
    ∀ v : τ, R w v → (m.watch ch sentinel timeout started elapsed w).Alike R
      (m.watch ch' sentinel timeout started' elapsed v) := by
  fun_induction Monitor.watch m ch sentinel timeout started elapsed w with
  | case1 elapsed w endless =>
    intro v related
    rw [watch_of_drain_none m (h.drain_none related endless)]
    exact .spins related
  | case2 elapsed w t cause drains =>
    intro v related
    obtain ⟨u, drains', related'⟩ := h.drain related drains
    rw [Monitor.watch, drains']
    exact .done related'
  | case3 elapsed w t drains =>
    intro v related
    obtain ⟨u, drains', related'⟩ := h.drain related drains
    rw [Monitor.watch, drains']
    exact .done related'
  | case4 elapsed w t drains lt pause ih =>
    intro v related
    obtain ⟨u, drains', related'⟩ := h.drain related drains
    conv => arg 3; rw [Monitor.watch, drains']
    dsimp only
    rw [dif_pos lt]
    exact .wait related' (ih u related')
  | case5 elapsed w t drains spent =>
    intro v related
    obtain ⟨u, drains', related'⟩ := h.drain related drains
    rw [Monitor.watch, drains']
    dsimp only
    rw [dif_neg spent]
    exact .done related'

end CoreTrial
