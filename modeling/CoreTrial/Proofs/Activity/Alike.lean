import CoreTrial.Proofs.Activity.Limit

/-!
# Activities that are alike

Two activities are alike when they wait for the same times and come to the same answer, in worlds
that are related throughout. They may start at different times: alike activities end equally long
after their starts.
-/

set_option autoImplicit false

namespace CoreTrial.Activity

variable {σ τ α : Type} {R : σ → τ → Prop}

/-- Both activities wait for the same times and end with the same answer, and `R` holds of their
worlds. -/
inductive Alike (R : σ → τ → Prop) : Activity σ α → Activity τ α → Prop
  | done {w : σ} {v : τ} {answer : α} (h : R w v) : Alike R (.done w answer) (.done v answer)
  | wait {w : σ} {v : τ} {time : Duration} {next : Unit → Activity σ α}
      {next' : Unit → Activity τ α} (h : R w v) (hn : Alike R (next ()) (next' ())) :
      Alike R (.wait w time next) (.wait v time next')
  | never {w : σ} {v : τ} (h : R w v) : Alike R (.never w) (.never v)
  | spins {w : σ} {v : τ} (h : R w v) : Alike R (.spins w) (.spins v)

namespace Alike

/-- Alike activities end equally long after their starts. -/
theorem finish {x : Activity σ α} {y : Activity τ α} (h : x.Alike R y) {now time : Duration}
    {w : σ} {a : α} (ends : x.finish? now = some (w, a, now + time)) (now' : Duration) :
    ∃ v, y.finish? now' = some (v, a, now' + time) ∧ R w v := by
  induction h generalizing now now' time with
  | @done w v answer h =>
    simp only [finish?, Option.some.injEq, Prod.mk.injEq] at ends ⊢
    obtain ⟨rfl, rfl, atOnce⟩ := ends
    exact ⟨v, ⟨rfl, rfl, by lia⟩, h⟩
  | @wait w v pause next next' _ _ ih =>
    rw [finish?] at ends ⊢
    have later := le_of_finish? ends
    have rest : now + time = now + pause + (time - pause) := by lia
    rw [rest] at ends
    obtain ⟨v', ends', related⟩ := ih ends (now' + pause)
    have rest' : now' + pause + (time - pause) = now' + time := by lia
    rw [rest'] at ends'
    exact ⟨v', ends', related⟩
  | never _ => cases ends
  | spins _ => cases ends

/-- Where the worlds of one activity are those of the other seen through a function, so is the
activity. -/
theorem embed_eq {g : σ → τ} {x : Activity σ α} {y : Activity τ α}
    (h : x.Alike (fun w v => g w = v) y) : x.embed g = y := by
  induction h with
  | done h => rw [embed, h]
  | wait h _ ih =>
    rw [embed, h]
    congr
    funext u
    exact ih
  | never h => rw [embed, h]
  | spins h => rw [embed, h]

end Alike

end CoreTrial.Activity
