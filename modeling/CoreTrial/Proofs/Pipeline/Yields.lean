import CoreTrial.Proofs.Activity.Yields
import CoreTrial.Proofs.Completion.Drain
import CoreTrial.Proofs.Pipeline.Record

/-!
# Runs that yield

A run asks for time only in its calls and while it waits for the device. So it yields where its
collaborators do, and where the bytes of the device run dry at every instant.
-/

set_option autoImplicit false

namespace CoreTrial

variable {σ α β ε : Type}

/-- No call of a run goes on forever without waiting, and at any one time the device sends finitely
many bytes. -/
structure Collaborators.Yields (c : Collaborators σ) : Prop where
  build : ∀ folder command limit, (c.build folder command limit).Yields
  synthesize : ∀ sources top part, (c.gateway.synthesize sources top part).Yields
  flash : ∀ bitstream device, (c.gateway.flash bitstream device).Yields
  openChannel : c.openChannel.Yields
  channel : c.channel.Finite
  analyze : ∀ metric, (c.gateway.analyze metric).Yields

/-- A wait for the sentinel yields where the bytes run dry. -/
theorem Monitor.await_yields (m : Monitor) {ch : Channel σ} (finite : ch.Finite) (sentinel : UInt8)
    (timeout : Duration) : (m.await ch sentinel timeout).Yields :=
  fun now w => m.spin?_watch finite sentinel timeout now 0 w

namespace Step

/-- The step never comes to go on forever without waiting. -/
def Yields (x : Step σ α) : Prop :=
  x.run.Yields

namespace Yields

theorem bind {x : Step σ α} {f : α → Step σ β} (hx : Yields x) (hf : ∀ v, Yields (f v)) :
    Yields (x >>= f) := by
  intro now a
  rw [run_bind]
  refine Activity.spin?_andThen_of_none (hx now a) fun r t b => ?_
  cases r with
  | ok v => exact hf v t b
  | error e => rfl

theorem call {stage : Stage} {reason : ε → PipelineError} {t : Work σ (Except ε α)}
    (ht : t.Yields) : Yields (Step.call stage reason t) := by
  intro now a
  rw [run_call]
  refine Activity.spin?_andThen_of_none ?_ fun r t b => ?_
  · rw [Activity.spin?_embed, ht now a.world]
    rfl
  · cases r with
    | ok v => rfl
    | error e => rfl

theorem pure (v : α) : Yields (Pure.pure v : Step σ α) := fun _ _ => rfl

theorem throw (e : StageFailure) : Yields (MonadExcept.throw e : Step σ α) := fun _ _ => rfl

theorem check (stage : Stage) (reason : ε → PipelineError) (r : Except ε α) :
    Yields (Step.check (σ := σ) stage reason r) := fun _ _ => rfl

theorem keep (g : Draft → Draft) : Yields (Step.keep (σ := σ) g) := fun _ _ => rfl

theorem record (epoch : Timestamp) (stage : Stage) (status : StageStatus) (detail : String) :
    Yields (Step.record (σ := σ) epoch stage status detail) := fun _ _ => rfl

end Yields

end Step

namespace Pipeline

variable {p : Pipeline σ}

/-- A stage makes one call, or two where it opens the channel and waits for the device. -/
theorem perform_yields (yields : p.parts.Yields) (program : Program) {s : Stage}
    (handed : Handed s.index) : Step.Yields (p.perform program s.index handed) := by
  cases s with
  | inject => exact .bind (.call (.act _)) fun _ => .record _ _ _ _
  | build =>
    refine .bind (.call (yields.build _ _ _)) fun result => .bind (.keep _) fun _ => ?_
    split
    · exact .record _ _ _ _
    · split
      · exact .throw _
      · exact .record _ _ _ _
  | synthesize =>
    exact .bind (.call (yields.synthesize _ _ _)) fun _ => .bind (.keep _) fun _ =>
      .bind (.record _ _ _ _) fun _ => .pure _
  | flash =>
    exact .bind (.call (yields.flash _ _)) fun _ => .bind (.keep _) fun _ => .record _ _ _ _
  | measure =>
    exact .bind (.call yields.openChannel) fun _ =>
      .bind (.call (Monitor.await_yields _ yields.channel _ _)) fun _ => .bind (.keep _) fun _ =>
        .bind (.record _ _ _ _) fun _ => .pure _
  | analyze =>
    exact .bind (.bind (.call (yields.analyze _)) fun _ => .bind (.keep _) fun _ =>
      .bind (.record _ _ _ _) fun _ => .pure _) fun _ => .pure _
  | score =>
    exact .bind (.check _ _ _) fun _ => .bind (.record _ _ _ _) fun _ => .pure _

/-- Stage after stage, a run yields. -/
theorem first_yields (yields : p.parts.Yields) (program : Program) {n : Nat} (hn : n ≤ 7) :
    Step.Yields (p.first program n) := by
  induction n with
  | zero => exact .pure _
  | succ n ih =>
    obtain ⟨s, rfl⟩ := Stage.exists_index_eq hn
    exact .bind (ih (Nat.le_of_succ_le hn)) fun handed => perform_yields yields program handed

/-- A run yields where its collaborators do. -/
theorem run_yields (yields : p.parts.Yields) (id : RunId) (program : Program) :
    (p.run id program).Yields := by
  intro now world
  have stages := first_yields yields program (Nat.le_refl 7) now (p.outset id program now world)
  rw [run_apply, Activity.spin?_embed, Activity.spin?_andThen_of_none
    (Activity.spin?_within_of_none stages) fun _ _ _ => rfl]
  rfl

end Pipeline

end CoreTrial
