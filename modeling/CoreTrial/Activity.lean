import CoreTrial.Time.Duration

/-!
# Work that takes time

An activity is what becomes of a world while some work is done. Time passes only while the work
waits; what it does between two waits takes no time. `Work` is an activity that has yet to start,
at any time and in any world.

`Activity.within` puts a limit on the time of an activity: work that is due exactly at the limit
is still done, and goes on until it would wait beyond the limit. A limit can only stop work that
waits, so work that goes on forever at one instant is stopped by none.
-/

set_option autoImplicit false

namespace CoreTrial

/-- What becomes of a world while work is done, and the answer, if there is one. -/
inductive Activity (σ α : Type) where
  /-- The work is over. -/
  | done (world : σ) (answer : α)
  /-- The work waits for some time and goes on. -/
  | wait (world : σ) (time : Duration) (next : Unit → Activity σ α)
  /-- The work waits for something that does not come. -/
  | never (world : σ)
  /-- From this world on, the work goes on forever without waiting. -/
  | spins (world : σ)

namespace Activity

variable {σ τ α β : Type}

/-- Goes on with `f` at the end of an activity that starts at `now`. -/
def andThen (now : Duration) (f : α → Duration → σ → Activity σ β) : Activity σ α → Activity σ β
  | .done world answer => f answer now world
  | .wait world time next => .wait world time fun _ => (next ()).andThen (now + time) f
  | .never world => .never world
  | .spins world => .spins world

/-- The activity without what it would do after `limit`. There is no answer where it would wait
beyond that; the work is then left as it is. -/
def within (limit : Duration) : Activity σ α → Activity σ (Option α)
  | .done world answer => .done world (some answer)
  | .wait world time next =>
    if time ≤ limit then .wait world time fun _ => (next ()).within (limit - time)
    else if limit = 0 then .done world none
    else .wait world limit fun _ => .done world none
  | .never world =>
    if limit = 0 then .done world none else .wait world limit fun _ => .done world none
  | .spins world => .spins world

/-- The activity as work on a larger world. -/
def embed (put : σ → τ) : Activity σ α → Activity τ α
  | .done world answer => .done (put world) answer
  | .wait world time next => .wait (put world) time fun _ => (next ()).embed put
  | .never world => .never (put world)
  | .spins world => .spins (put world)

/-- The end of an activity that starts at `now`: the world, the answer and the time. -/
def finish? (now : Duration) : Activity σ α → Option (σ × α × Duration)
  | .done world answer => some (world, answer, now)
  | .wait _ time next => (next ()).finish? (now + time)
  | .never _ | .spins _ => none

end Activity

/-- Work that can be started at any time in any world. -/
def Work (σ α : Type) := Duration → σ → Activity σ α

namespace Work

variable {σ τ α β : Type}

/-- Gives an answer at once. -/
protected def pure (a : α) : Work σ α :=
  fun _ world => .done world a

/-- One piece of work and then another. -/
protected def bind (t : Work σ α) (f : α → Work σ β) : Work σ β :=
  fun now world => (t now world).andThen now f

instance : Monad (Work σ) where
  pure := Work.pure
  bind := Work.bind

/-- The time. -/
def now : Work σ Duration :=
  fun now world => .done world now

/-- The world. -/
def look : Work σ σ :=
  fun _ world => .done world world

/-- Changes the world. -/
def change (f : σ → σ) : Work σ Unit :=
  fun _ world => .done (f world) ()

/-- Does something at once. -/
def act (f : σ → σ × α) : Work σ α :=
  fun _ world => .done (f world).1 (f world).2

/-- Waits; no time at all is not waited for. -/
def pause (time : Duration) : Work σ Unit :=
  fun _ world => if time = 0 then .done world () else .wait world time fun _ => .done world ()

/-- Cuts work at a limit, which a timer keeps. -/
def within (limit : Duration) (t : Work σ α) : Work σ (Option α) :=
  fun now world => (t now world).within limit.onTimer

/-- Work on a part of a world. -/
def on (get : τ → σ) (put : σ → τ → τ) (t : Work σ α) : Work τ α :=
  fun now world => (t now (get world)).embed fun part => put part world

/-- Goes on with `next`, unless the first piece of work fails. -/
def orElse {ε ε' : Type} (t : Work σ (Except ε α)) (f : ε → ε') (next : α → Work σ (Except ε' β)) :
    Work σ (Except ε' β) :=
  t.bind fun
    | .ok a => next a
    | .error e => Work.pure (.error (f e))

theorem bind_apply (t : Work σ α) (f : α → Work σ β) (now : Duration) (world : σ) :
    (t >>= f) now world = (t now world).andThen now f := rfl

end Work

namespace Activity

variable {σ α β γ : Type}

theorem andThen_pure (a : Activity σ α) (now : Duration) :
    a.andThen now (fun x => Work.pure x) = a := by
  induction a generalizing now with
  | done => rfl
  | wait world time next ih =>
    have h (u : Unit) := ih u (now + time)
    simp only [andThen, h]
  | never => rfl
  | spins => rfl

theorem andThen_assoc (a : Activity σ α) (now : Duration) (f : α → Duration → σ → Activity σ β)
    (g : β → Duration → σ → Activity σ γ) :
    (a.andThen now f).andThen now g
      = a.andThen now fun x t world => (f x t world).andThen t g := by
  induction a generalizing now with
  | done => rfl
  | wait world time next ih =>
    have h (u : Unit) := ih u (now + time)
    simp only [andThen, h]
  | never => rfl
  | spins => rfl

end Activity

instance {σ : Type} : LawfulMonad (Work σ) :=
  LawfulMonad.mk' (Work σ)
    (fun t => funext fun now => funext fun world => (t now world).andThen_pure now)
    (fun _ _ => rfl)
    (fun t _ _ => funext fun now => funext fun world => (t now world).andThen_assoc now _ _)

end CoreTrial
