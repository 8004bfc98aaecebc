import CoreTrial.Proofs.Activity.Limit

/-!
# Where an activity waits

`pauses` are the worlds in which an activity waits, each with the time at which it comes there. What
happens between two of them happens at the time of the second one, so they and the end show all that
an activity does, and when. Work that is dropped is left in one of them.

`Concludes` says that an activity ends, what holds wherever it waits, and what holds at the end, all
with the time.
-/

set_option autoImplicit false

namespace CoreTrial.Activity

variable {σ τ α β : Type} {now : Duration}

/-- The worlds in which an activity waits, and when it comes to each. -/
def pauses (now : Duration) : Activity σ α → List (Duration × σ)
  | .done _ _ => []
  | .wait world time next => (now, world) :: (next ()).pauses (now + time)
  | .never world => [(now, world)]
  | .spins _ => []

theorem Meets.of_mem_pauses {during : σ → Prop} {after : σ → α → Prop} {x : Activity σ α}
    (h : x.Meets during after) {t : Duration} {w : σ} (waits : (t, w) ∈ x.pauses now) :
    during w := by
  induction h generalizing now with
  | done _ => simp [pauses] at waits
  | wait here _ ih =>
    rcases List.mem_cons.1 waits with same | later
    · cases same
      exact here
    · exact ih later
  | never here =>
    cases List.mem_singleton.1 waits
    exact here
  | spins _ => simp [pauses] at waits

/-- Started at some time, the activity ends. `during` holds of each world in which it waits, and
`after` of its end. -/
inductive Concludes (during : Duration → σ → Prop) (after : Duration → σ → α → Prop) :
    Duration → Activity σ α → Prop
  | done {now : Duration} {world : σ} {answer : α} (h : after now world answer) :
      Concludes during after now (.done world answer)
  | wait {now : Duration} {world : σ} {time : Duration} {next : Unit → Activity σ α}
      (h : during now world) (hn : Concludes during after (now + time) (next ())) :
      Concludes during after now (.wait world time next)

namespace Concludes

variable {during during' : Duration → σ → Prop} {after after' : Duration → σ → α → Prop}
  {x : Activity σ α}

/-- Nothing happens before the start. -/
theorem mono (h : x.Concludes during after now)
    (hd : ∀ t w, now ≤ t → during t w → during' t w)
    (ha : ∀ t w a, now ≤ t → after t w a → after' t w a) : x.Concludes during' after' now := by
  induction h with
  | done h => exact .done (ha _ _ _ (Nat.le_refl _) h)
  | @wait now world time next h _ ih =>
    have start : now ≤ now + time := Nat.le_add_right now time
    refine .wait (hd _ _ (Nat.le_refl _) h) (ih ?_ ?_)
    · intro t w le
      exact hd t w (Nat.le_trans start le)
    · intro t w a le
      exact ha t w a (Nat.le_trans start le)

/-- Work that goes on at the end of other work. -/
theorem andThen {y : Activity σ β} {f : β → Duration → σ → Activity σ α}
    (h : y.Concludes during (fun t w b => (f b t w).Concludes during after t) now) :
    (y.andThen now f).Concludes during after now := by
  induction h with
  | done h => exact h
  | wait h _ ih => exact .wait h ih

theorem of_mem_pauses (h : x.Concludes during after now) {t : Duration} {w : σ}
    (waits : (t, w) ∈ x.pauses now) : during t w := by
  induction h with
  | done _ => simp [pauses] at waits
  | wait here _ ih =>
    rcases List.mem_cons.1 waits with same | later
    · cases same
      exact here
    · exact ih later

theorem ends (h : x.Concludes during after now) :
    ∃ w a t, x.finish? now = some (w, a, t) ∧ after t w a := by
  induction h with
  | done h => exact ⟨_, _, _, rfl, h⟩
  | wait _ _ ih => exact ih

end Concludes

end CoreTrial.Activity
