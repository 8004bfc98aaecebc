import CoreTrial.Activity

/-!
# Work on a larger world

Work on a larger world that does the same as some other work, and keeps something beside it, is the
other work once what it keeps is forgotten. `Erases` says this of any two pieces of work, and is
kept by all that work is put together with.
-/

set_option autoImplicit false

namespace CoreTrial

namespace Activity

variable {σ τ υ α β : Type}

theorem embed_id (x : Activity σ α) : (x.embed fun w => w) = x := by
  induction x with
  | done world answer => rfl
  | wait world time next ih => simp only [embed, ih]
  | never world => rfl
  | spins world => rfl

theorem embed_embed (x : Activity σ α) (f : σ → τ) (g : τ → υ) :
    (x.embed f).embed g = x.embed fun w => g (f w) := by
  induction x with
  | done world answer => rfl
  | wait world time next ih => simp only [embed, ih]
  | never world => rfl
  | spins world => rfl

theorem embed_andThen (x : Activity τ α) (g : τ → σ) {f : α → Duration → τ → Activity τ β}
    (f' : α → Duration → σ → Activity σ β) (now : Duration)
    (same : ∀ a t w, (f a t w).embed g = f' a t (g w)) :
    (x.andThen now f).embed g = (x.embed g).andThen now f' := by
  induction x generalizing now with
  | done world answer => exact same answer now world
  | wait world time next ih =>
    have rest (u : Unit) := ih u (now + time)
    simp only [andThen, embed, rest]
  | never world => rfl
  | spins world => rfl

theorem embed_within (x : Activity τ α) (g : τ → σ) (limit : Duration) :
    (x.within limit).embed g = (x.embed g).within limit := by
  induction x generalizing limit with
  | done world answer => rfl
  | wait world time next ih =>
    rw [within, embed, within]
    split
    · simp only [embed, ih]
    · split
      · rfl
      · rfl
  | never world =>
    rw [within, embed, within]
    split
    · rfl
    · rfl
  | spins world => rfl

end Activity

namespace Work

variable {σ τ α β : Type} {g : τ → σ}

/-- The first piece of work is the second one, once its world is seen through `g`. -/
def Erases (g : τ → σ) (t' : Work τ α) (t : Work σ α) : Prop :=
  ∀ now w, (t' now w).embed g = t now (g w)

theorem Erases.bind {t' : Work τ α} {t : Work σ α} {f' : α → Work τ β} {f : α → Work σ β}
    (ht : Erases g t' t) (hf : ∀ a, Erases g (f' a) (f a)) :
    Erases g (t' >>= f') (t >>= f) := by
  intro now w
  rw [bind_apply, bind_apply, ← ht now w]
  exact Activity.embed_andThen _ g _ now fun a => hf a

/-- Work on a part of a world leaves in that part what it leaves alone. -/
theorem Erases.on {put : σ → τ → τ} (get_put : ∀ s w, g (put s w) = s) (t : Work σ α) :
    Erases g (t.on g put) t := by
  intro now w
  unfold Work.on
  rw [Activity.embed_embed]
  simp only [get_put]
  exact Activity.embed_id _

end Work

end CoreTrial
