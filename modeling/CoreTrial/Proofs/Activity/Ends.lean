import CoreTrial.Proofs.Activity.Limit

/-!
# How work ends

The end of a piece of work is its answer, the time and the world. What is put together of other work
ends as its parts do, one after the other.
-/

set_option autoImplicit false

namespace CoreTrial.Work

variable {σ τ α β : Type} {now later : Duration}

/-- Work that starts at some time in some world ends later, with an answer and in another world. -/
def Ends (t : Work σ α) (now : Duration) (world : σ) (answer : α) (later : Duration)
    (after : σ) : Prop :=
  (t now world).finish? now = some (after, answer, later)

/-- One piece of work after the other. -/
theorem ends_bind_iff {t : Work σ α} {f : α → Work σ β} {w w' : σ} {r : β} :
    (t >>= f).Ends now w r later w' ↔
      ∃ v mid u, t.Ends now w v mid u ∧ (f v).Ends mid u r later w' := by
  have whole : ((t >>= f) now w).finish? now =
      ((t now w).finish? now).bind fun ended =>
        (f ended.2.1 ended.2.2 ended.1).finish? ended.2.2 :=
    Activity.finish?_andThen (t now w) f
  unfold Ends
  rw [whole, Option.bind_eq_some_iff]
  constructor
  · rintro ⟨⟨u, v, mid⟩, first, rest⟩
    exact ⟨v, mid, u, first, rest⟩
  · rintro ⟨v, mid, u, first, rest⟩
    exact ⟨⟨u, v, mid⟩, first, rest⟩

/-- What is done at once. -/
theorem ends_act_iff {f : σ → σ × α} {w w' : σ} {r : α} :
    (act f).Ends now w r later w' ↔ f w = (w', r) ∧ later = now := by
  unfold Ends
  constructor
  · intro ends
    cases ends
    exact ⟨rfl, rfl⟩
  · rintro ⟨same, rfl⟩
    unfold act
    rw [same]
    rfl

/-- Work on a part of a world ends as it does on that part alone. -/
theorem ends_on_iff {get : τ → σ} {put : σ → τ → τ} {t : Work σ α} {w w' : τ} {r : α} :
    (t.on get put).Ends now w r later w' ↔
      ∃ part, t.Ends now (get w) r later part ∧ put part w = w' := by
  unfold Ends on
  rw [Activity.finish?_embed, Option.map_eq_some_iff]
  constructor
  · rintro ⟨⟨part, answer, time⟩, ends, same⟩
    cases same
    exact ⟨part, ends, rfl⟩
  · rintro ⟨part, ends, rfl⟩
    exact ⟨_, ends, rfl⟩

end CoreTrial.Work
