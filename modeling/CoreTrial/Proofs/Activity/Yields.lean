import CoreTrial.Proofs.Activity.Limit

/-!
# Work that yields

Work yields where it never comes to go on forever without waiting. Only such work can be stopped by
a limit. It is made of parts that yield.
-/

set_option autoImplicit false

namespace CoreTrial

namespace Activity

variable {σ α β : Type} {now : Duration}

/-- An activity that spins does so whatever would follow. -/
theorem spin?_andThen_of_some {x : Activity σ β} {w : σ} (spins : x.spin? = some w)
    (f : β → Duration → σ → Activity σ α) : (x.andThen now f).spin? = some w := by
  induction x generalizing now with
  | done world answer => cases spins
  | wait world time next ih => exact ih () spins
  | never world => cases spins
  | spins world => exact spins

theorem spin?_andThen_of_none {x : Activity σ β} {f : β → Duration → σ → Activity σ α}
    (yields : x.spin? = none) (rest : ∀ b t w, (f b t w).spin? = none) :
    (x.andThen now f).spin? = none := by
  induction x generalizing now with
  | done world answer => exact rest answer now world
  | wait world time next ih => exact ih () yields
  | never world => rfl
  | spins world => cases yields

end Activity

namespace Work

variable {σ τ α β ε ε' : Type}

/-- The work never comes to go on forever without waiting. -/
def Yields (t : Work σ α) : Prop :=
  ∀ now w, (t now w).spin? = none

namespace Yields

theorem pure (a : α) : (Pure.pure a : Work σ α).Yields := fun _ _ => rfl

theorem act (f : σ → σ × α) : (Work.act f).Yields := fun _ _ => rfl

theorem bind {t : Work σ α} {f : α → Work σ β} (ht : t.Yields) (hf : ∀ a, (f a).Yields) :
    (t >>= f).Yields := by
  intro now w
  rw [bind_apply]
  exact Activity.spin?_andThen_of_none (ht now w) fun a t w => hf a t w

/-- Work on a part of a world yields as it does on that part alone. -/
theorem on {get : τ → σ} {put : σ → τ → τ} {t : Work σ α} (ht : t.Yields) :
    (t.on get put).Yields := by
  intro now w
  rw [Work.on, Activity.spin?_embed, ht now (get w)]
  rfl

theorem within {t : Work σ α} (ht : t.Yields) (limit : Duration) : (t.within limit).Yields :=
  fun now w => Activity.spin?_within_of_none (ht now w)

end Yields

end Work

end CoreTrial
