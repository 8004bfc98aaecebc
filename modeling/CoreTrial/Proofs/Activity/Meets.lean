import CoreTrial.Activity

/-!
# What an activity keeps and what it ends in

`Meets during after` says that `during` holds of every world in which the activity waits, or from
which it goes on forever, and `after` of its end. An activity that is cut at a limit is left in a
world in which it waits, so `Meets.within` turns what holds during the whole into what holds where
it is cut.
-/

set_option autoImplicit false

namespace CoreTrial.Activity

variable {σ τ α β : Type} {during during' : σ → Prop} {after after' : σ → α → Prop}

/-- `during` holds of every world in which the activity waits or from which it spins, and `after` of
its end. -/
inductive Meets (during : σ → Prop) (after : σ → α → Prop) : Activity σ α → Prop
  | done {world : σ} {answer : α} (h : after world answer) : Meets during after (.done world answer)
  | wait {world : σ} {time : Duration} {next : Unit → Activity σ α} (h : during world)
      (hn : Meets during after (next ())) : Meets during after (.wait world time next)
  | never {world : σ} (h : during world) : Meets during after (.never world)
  | spins {world : σ} (h : during world) : Meets during after (.spins world)

namespace Meets

theorem mono {x : Activity σ α} (h : x.Meets during after) (hd : ∀ w, during w → during' w)
    (ha : ∀ w a, after w a → after' w a) : x.Meets during' after' := by
  induction h with
  | done h => exact .done (ha _ _ h)
  | wait h _ ih => exact .wait (hd _ h) ih
  | never h => exact .never (hd _ h)
  | spins h => exact .spins (hd _ h)

theorem and {x : Activity σ α} (h : x.Meets during after) (h' : x.Meets during' after') :
    x.Meets (fun w => during w ∧ during' w) fun w a => after w a ∧ after' w a := by
  induction h with
  | done h =>
    cases h' with
    | done h' => exact .done ⟨h, h'⟩
  | wait h _ ih =>
    cases h' with
    | wait h' hn' => exact .wait ⟨h, h'⟩ (ih hn')
  | never h =>
    cases h' with
    | never h' => exact .never ⟨h, h'⟩
  | spins h =>
    cases h' with
    | spins h' => exact .spins ⟨h, h'⟩

/-- Work that goes on at the end of other work. -/
theorem andThen {x : Activity σ β} {f : β → Duration → σ → Activity σ α}
    (h : x.Meets during fun w b => ∀ t, (f b t w).Meets during after) (now : Duration) :
    (x.andThen now f).Meets during after := by
  induction h generalizing now with
  | done h => exact h now
  | wait h _ ih => exact .wait h (ih _)
  | never h => exact .never h
  | spins h => exact .spins h

/-- Work that is cut is left in a world in which it waits. -/
theorem within {x : Activity σ α} (h : x.Meets during after) (limit : Duration) :
    (x.within limit).Meets during fun w a =>
      match a with
      | some a => after w a
      | none => during w := by
  induction h generalizing limit with
  | done h => exact .done h
  | wait h _ ih =>
    unfold Activity.within
    split
    · exact .wait h (ih _)
    · split
      · exact .done h
      · exact .wait h (.done h)
  | never h =>
    unfold Activity.within
    split
    · exact .done h
    · exact .wait h (.done h)
  | spins h => exact .spins h

theorem embed {x : Activity τ α} {put : τ → σ}
    (h : x.Meets (fun w => during (put w)) fun w a => after (put w) a) :
    (x.embed put).Meets during after := by
  induction h with
  | done h => exact .done h
  | wait h _ ih => exact .wait h ih
  | never h => exact .never h
  | spins h => exact .spins h

/-- Nothing is known of unknown work. -/
theorem unknown (x : Activity σ α) : x.Meets (fun _ => True) fun _ _ => True := by
  induction x with
  | done world answer => exact .done trivial
  | wait world time next ih => exact .wait trivial (ih ())
  | never world => exact .never trivial
  | spins world => exact .spins trivial

theorem finish {x : Activity σ α} (h : x.Meets during after) {now time : Duration} {world : σ}
    {answer : α} (done : x.finish? now = some (world, answer, time)) : after world answer := by
  induction h generalizing now with
  | done h =>
    cases done
    exact h
  | wait _ _ ih => exact ih done
  | never => cases done
  | spins => cases done

end Meets

end CoreTrial.Activity
