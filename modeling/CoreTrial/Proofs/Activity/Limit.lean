import CoreTrial.Proofs.Activity.Embed
import CoreTrial.Proofs.Activity.Meets

/-!
# Activities under a limit

An activity that ends by the limit ends alike without it, also when it ends exactly then. One that
is late is cut when the limit strikes, in the world in which it waits at that time. One that has
come to spin by then does not end at all. All three follow the parts of an activity, so what cuts a
long activity is the part of it that is late.
-/

set_option autoImplicit false

namespace CoreTrial.Activity

variable {σ τ α β : Type} {now limit : Duration}

/-- The world in which an activity waits when a limit strikes, or that of its end. -/
def pausedAt (limit : Duration) : Activity σ α → σ
  | .done world _ => world
  | .wait world time next => if time ≤ limit then (next ()).pausedAt (limit - time) else world
  | .never world | .spins world => world

/-- The world from which an activity goes on forever without waiting, if it comes to one. -/
def spin? : Activity σ α → Option σ
  | .wait _ _ next => (next ()).spin?
  | .spins world => some world
  | .done _ _ | .never _ => none

/-- An activity that starts at `now` and neither ends nor spins by the limit. -/
structure Late (now limit : Duration) (x : Activity σ α) : Prop where
  ends_after : ∀ w a t, x.finish? now = some (w, a, t) → now + limit < t
  waits : (x.within limit).spin? = none

/-- What is cut ends when the limit strikes. -/
theorem finish?_cut (now limit : Duration) (world : σ) :
    (if limit = 0 then done world none else
      wait world limit fun _ => done world (none : Option α)).finish? now =
        some (world, none, now + limit) := by
  split
  next zero =>
    rw [zero]
    rfl
  next => rfl

/-- What is cut does not spin. -/
theorem spin?_cut (limit : Duration) (world : σ) :
    (if limit = 0 then done world none else
      wait world limit fun _ => done world (none : Option α)).spin? = none := by
  split
  · rfl
  · rfl

/-- An activity with a limit ends, or it spins. -/
theorem within_ends_or_spins (now limit : Duration) (x : Activity σ α) :
    (∃ w a t, (x.within limit).finish? now = some (w, a, t)) ∨
      ∃ w, (x.within limit).spin? = some w := by
  induction x generalizing now limit with
  | done world answer => exact .inl ⟨_, _, _, rfl⟩
  | wait world time next ih =>
    rw [within]
    by_cases h : time ≤ limit
    · rw [if_pos h]
      exact ih () (now + time) (limit - time)
    · rw [if_neg h]
      exact .inl ⟨_, _, _, finish?_cut now limit world⟩
  | never world => exact .inl ⟨_, _, _, finish?_cut now limit world⟩
  | spins world => exact .inr ⟨world, rfl⟩

/-- An activity that spins does not end. -/
theorem finish?_of_spin? {x : Activity σ α} {w : σ} (spins : x.spin? = some w) (now : Duration) :
    x.finish? now = none := by
  induction x generalizing now with
  | done world answer => cases spins
  | wait world time next ih => exact ih () spins (now + time)
  | never world => rfl
  | spins world => rfl

/-- An activity that ends does not spin. -/
theorem spin?_of_finish? {x : Activity σ α} {w : σ} {a : α} {t : Duration}
    (ends : x.finish? now = some (w, a, t)) : x.spin? = none := by
  cases spins : x.spin? with
  | none => rfl
  | some v =>
    rw [finish?_of_spin? spins] at ends
    cases ends

/-- A limit makes no work spin. -/
theorem spin?_within_of_none {x : Activity σ α} (yields : x.spin? = none) :
    (x.within limit).spin? = none := by
  induction x generalizing limit with
  | done world answer => rfl
  | wait world time next ih =>
    rw [within]
    split
    · exact ih () yields
    · exact spin?_cut limit world
  | never world => exact spin?_cut limit world
  | spins world => cases yields

/-- An activity ends by the limit, or is late, or spins by then. -/
theorem ends_or_late_or_spins (now limit : Duration) (x : Activity σ α) :
    (∃ w a t, x.finish? now = some (w, a, t) ∧ t ≤ now + limit) ∨ x.Late now limit ∨
      ∃ w, (x.within limit).spin? = some w := by
  by_cases in_time : ∃ w a t, x.finish? now = some (w, a, t) ∧ t ≤ now + limit
  · exact .inl in_time
  · cases spins : (x.within limit).spin? with
    | some w => exact .inr (.inr ⟨w, rfl⟩)
    | none =>
      have late w a t ends : now + limit < t := Nat.not_le.1 fun le => in_time ⟨w, a, t, ends, le⟩
      exact .inr (.inl ⟨late, spins⟩)

theorem not_late_done (w : σ) (a : α) : ¬ (done w a).Late now limit := by
  intro late
  exact Nat.not_lt.2 (Nat.le_add_right now limit) (late.ends_after w a now rfl)

theorem not_late_spins (w : σ) : ¬ (spins w : Activity σ α).Late now limit := by
  rintro ⟨-, waits⟩
  cases waits

/-- Waiting moves time on and leaves the limit where it is. -/
theorem time_left {time : Duration} (h : time ≤ limit) :
    now + time + (limit - time) = now + limit := by
  rw [Nat.add_assoc, Nat.add_sub_of_le h]

theorem Late.of_wait {w : σ} {time : Duration} {next : Unit → Activity σ α} (h : time ≤ limit)
    (late : (wait w time next).Late now limit) :
    (next ()).Late (now + time) (limit - time) := by
  obtain ⟨ends_after, waits⟩ := late
  rw [within, if_pos h] at waits
  refine ⟨fun v a t ends => ?_, waits⟩
  rw [time_left h]
  exact ends_after v a t ends

/-- An activity does not end before it starts. -/
theorem le_of_finish? {x : Activity σ α} {w : σ} {a : α} {t : Duration}
    (ends : x.finish? now = some (w, a, t)) : now ≤ t := by
  induction x generalizing now with
  | done world answer =>
    cases ends
    exact Nat.le_refl _
  | wait world time next ih =>
    exact Nat.le_trans (Nat.le_add_right now time) (ih () ends)
  | never world => cases ends
  | spins world => cases ends

/-- Work that ends by the limit does not wait for longer. -/
theorem le_limit_of_finish? {v w : σ} {a : α} {time t : Duration} {next : Unit → Activity σ α}
    (ends : (wait v time next).finish? now = some (w, a, t)) (le : t ≤ now + limit) :
    time ≤ limit := by
  have started : now + time ≤ t := le_of_finish? (x := next ()) ends
  exact Nat.le_of_add_le_add_left (Nat.le_trans started le)

/-- Work that goes on at the end of other work ends at the end of both. -/
theorem finish?_andThen (x : Activity σ β) (f : β → Duration → σ → Activity σ α) :
    (x.andThen now f).finish? now =
      (x.finish? now).bind fun (w, b, t) => (f b t w).finish? t := by
  induction x generalizing now with
  | done world answer => rfl
  | wait world time next ih => exact ih ()
  | never world => rfl
  | spins world => rfl

theorem finish?_embed (x : Activity τ α) (put : τ → σ) :
    (x.embed put).finish? now = (x.finish? now).map fun (w, a, t) => (put w, a, t) := by
  induction x generalizing now with
  | done world answer => rfl
  | wait world time next ih => exact ih ()
  | never world => rfl
  | spins world => rfl

/-- Work that ends by the limit ends as it does without one. -/
theorem finish?_within {x : Activity σ α} {w : σ} {a : α} {t : Duration}
    (ends : x.finish? now = some (w, a, t)) (le : t ≤ now + limit) :
    (x.within limit).finish? now = some (w, some a, t) := by
  induction x generalizing now limit with
  | done world answer =>
    cases ends
    rfl
  | wait world time next ih =>
    have h := le_limit_of_finish? ends le
    rw [within, if_pos h]
    rw [← time_left h] at le
    exact ih () ends le
  | never world => cases ends
  | spins world => cases ends

/-- Late work is cut exactly at the limit. -/
theorem finish?_within_of_late {x : Activity σ α} (late : x.Late now limit) :
    (x.within limit).finish? now = some (x.pausedAt limit, none, now + limit) := by
  induction x generalizing now limit with
  | done world answer => exact absurd late (not_late_done world answer)
  | wait world time next ih =>
    rw [within, pausedAt]
    by_cases h : time ≤ limit
    · rw [if_pos h, if_pos h, ← time_left h]
      exact ih () (late.of_wait h)
    · rw [if_neg h, if_neg h]
      exact finish?_cut now limit world
  | never world => exact finish?_cut now limit world
  | spins world => exact absurd late (not_late_spins world)

/-- Work with a limit that has an answer ends as it does without one. -/
theorem finish?_of_within {x : Activity σ α} {w : σ} {a : α} {t : Duration}
    (ends : (x.within limit).finish? now = some (w, some a, t)) :
    x.finish? now = some (w, a, t) := by
  rcases ends_or_late_or_spins now limit x with ⟨w', a', t', first, le⟩ | late | ⟨v, spins⟩
  · cases ends.symm.trans (finish?_within first le)
    exact first
  · cases ends.symm.trans (finish?_within_of_late late)
  · cases ends.symm.trans (finish?_of_spin? spins now)

/-- Work with a limit that has an answer ends by the limit. -/
theorem le_of_finish?_within {x : Activity σ α} {w : σ} {a : α} {t : Duration}
    (ends : (x.within limit).finish? now = some (w, some a, t)) : t ≤ now + limit := by
  rcases ends_or_late_or_spins now limit x with ⟨w', a', t', first, le⟩ | late | ⟨v, spins⟩
  · cases ends.symm.trans (finish?_within first le)
    exact le
  · cases ends.symm.trans (finish?_within_of_late late)
  · cases ends.symm.trans (finish?_of_spin? spins now)

/-- Work that spins does so whatever would follow. -/
theorem spin?_within_andThen {x : Activity σ β} {w : σ} (spins : (x.within limit).spin? = some w)
    (f : β → Duration → σ → Activity σ α) : ((x.andThen now f).within limit).spin? = some w := by
  induction x generalizing now limit with
  | done world answer => cases spins
  | wait world time next ih =>
    rw [Activity.andThen, within]
    rw [within] at spins
    by_cases h : time ≤ limit
    · rw [if_pos h] at spins ⊢
      exact ih () spins
    · rw [if_neg h] at spins
      cases (spin?_cut limit world).symm.trans spins
  | never world => cases (spin?_cut limit world).symm.trans spins
  | spins world => exact spins

/-- Where work ends by the limit, what follows spins by then if the whole does. -/
theorem spin?_within_andThen_of_finish? {x : Activity σ β} {w : σ} {b : β} {t : Duration}
    (ends : x.finish? now = some (w, b, t)) (le : t ≤ now + limit)
    (f : β → Duration → σ → Activity σ α) :
    ((x.andThen now f).within limit).spin? = ((f b t w).within (now + limit - t)).spin? := by
  induction x generalizing now limit with
  | done world answer =>
    cases ends
    rw [Activity.andThen, Nat.add_sub_cancel_left]
  | wait world time next ih =>
    have h := le_limit_of_finish? ends le
    rw [← time_left h] at le ⊢
    rw [Activity.andThen, within, if_pos h]
    exact ih () ends le
  | never world => cases ends
  | spins world => cases ends

/-- Where late work starts with work that ends by the limit, what follows this is late. -/
theorem Late.rest {x : Activity σ β} {f : β → Duration → σ → Activity σ α} {w : σ} {b : β}
    {t : Duration} (late : (x.andThen now f).Late now limit)
    (ends : x.finish? now = some (w, b, t)) (le : t ≤ now + limit) :
    (f b t w).Late t (now + limit - t) where
  ends_after v a u last := by
    rw [Nat.add_sub_of_le le]
    refine late.ends_after v a u ?_
    rw [finish?_andThen, ends]
    exact last
  waits := by
    rw [← spin?_within_andThen_of_finish? ends le]
    exact late.waits

/-- What follows late work is late. -/
theorem Late.andThen {x : Activity σ β} (late : x.Late now limit)
    (f : β → Duration → σ → Activity σ α) : (x.andThen now f).Late now limit where
  ends_after w a t ends := by
    rw [finish?_andThen] at ends
    obtain ⟨⟨v, b, u⟩, first, rest⟩ := Option.bind_eq_some_iff.1 ends
    exact Nat.lt_of_lt_of_le (late.ends_after v b u first) (le_of_finish? rest)
  waits := by
    induction x generalizing now limit with
    | done world answer => exact absurd late (not_late_done world answer)
    | wait world time next ih =>
      rw [Activity.andThen, within]
      split
      next h => exact ih () (late.of_wait h)
      next => exact spin?_cut limit world
    | never world => exact spin?_cut limit world
    | spins world => exact absurd late (not_late_spins world)

theorem spin?_embed (x : Activity τ α) (put : τ → σ) : (x.embed put).spin? = x.spin?.map put := by
  induction x with
  | done world answer => rfl
  | wait world time next ih => exact ih ()
  | never world => rfl
  | spins world => rfl

theorem Late.embed {x : Activity τ α} (late : x.Late now limit) (put : τ → σ) :
    (x.embed put).Late now limit where
  ends_after w a t ends := by
    rw [finish?_embed] at ends
    obtain ⟨⟨v, b, u⟩, inner, same⟩ := Option.map_eq_some_iff.1 ends
    cases same
    exact late.ends_after v a t inner
  waits := by
    rw [← embed_within, spin?_embed, late.waits]
    rfl

/-- Late work is where the limit strikes, whatever would follow. -/
theorem Late.pausedAt_andThen {x : Activity σ β} (late : x.Late now limit)
    (f : β → Duration → σ → Activity σ α) :
    (x.andThen now f).pausedAt limit = x.pausedAt limit := by
  induction x generalizing now limit with
  | done world answer => exact absurd late (not_late_done world answer)
  | wait world time next ih =>
    rw [Activity.andThen, pausedAt, pausedAt]
    by_cases h : time ≤ limit
    · rw [if_pos h, if_pos h]
      exact ih () (late.of_wait h)
    · rw [if_neg h, if_neg h]
  | never world => rfl
  | spins world => rfl

/-- Where work ends by the limit, this strikes in what follows, with the time that is left. -/
theorem pausedAt_andThen {x : Activity σ β} {w : σ} {b : β} {t : Duration}
    (ends : x.finish? now = some (w, b, t)) (le : t ≤ now + limit)
    (f : β → Duration → σ → Activity σ α) :
    (x.andThen now f).pausedAt limit = (f b t w).pausedAt (now + limit - t) := by
  induction x generalizing now limit with
  | done world answer =>
    cases ends
    rw [Activity.andThen, Nat.add_sub_cancel_left]
  | wait world time next ih =>
    have h := le_limit_of_finish? ends le
    rw [← time_left h] at le ⊢
    rw [Activity.andThen, pausedAt, if_pos h]
    exact ih () ends le
  | never world => cases ends
  | spins world => cases ends

/-- What holds wherever work waits holds where it comes to spin. -/
theorem Meets.of_spin? {during : σ → Prop} {after : σ → α → Prop} {x : Activity σ α}
    (h : x.Meets during after) {w : σ} (spins : x.spin? = some w) : during w := by
  induction h with
  | done _ => cases spins
  | wait _ _ ih => exact ih spins
  | never _ => cases spins
  | spins h =>
    cases spins
    exact h

/-- Late work is cut in a world in which it waits. -/
theorem Meets.pausedAt {during : σ → Prop} {after : σ → α → Prop} {x : Activity σ α}
    (h : x.Meets during after) (late : x.Late now limit) : during (x.pausedAt limit) := by
  induction h generalizing now limit with
  | done _ => exact absurd late (not_late_done _ _)
  | @wait world time next during _ ih =>
    rw [Activity.pausedAt]
    by_cases h : time ≤ limit
    · rw [if_pos h]
      exact ih (late.of_wait h)
    · rw [if_neg h]
      exact during
  | never h => exact h
  | spins h => exact h

end CoreTrial.Activity
