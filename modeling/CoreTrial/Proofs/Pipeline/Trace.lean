import CoreTrial.Proofs.Activity.Embed
import CoreTrial.Proofs.Completion.Alike
import CoreTrial.Proofs.Gateway.Serve
import CoreTrial.Proofs.Pipeline.Record

/-!
# Runs with a trace

The trace of a run is what it asks of its collaborators and what these reply, in order. The
collaborators of `Pipeline.traced` write it beside the world, and pass on everything else: a run of
that pipeline is a run of the pipeline itself once the trace is forgotten (`run_traced`).
-/

set_option autoImplicit false

namespace CoreTrial

/-- What a run can ask of its collaborators. -/
inductive Call where
  | build (folder : Path) (command : BuildCommand) (limit : Duration)
  | gateway (request : Gateway.Request)
  | openChannel

/-- What a collaborator replies. -/
inductive Reply where
  | build (result : Except BuildError BuildResult)
  | gateway (answer : Except ToolError Gateway.Answer)
  | openChannel (result : Except IoError Unit)

/-- What happens between a run and its collaborators. -/
inductive Event where
  | called (call : Call)
  | returned (call : Call) (reply : Reply)
  /-- The channel is asked for one byte, and answers at once. -/
  | sampled (byte : Except IoError (Option UInt8))

/-- A world, and the trace up to now. -/
structure Traced (σ : Type) where
  world : σ
  trace : List Event

namespace Traced

variable {σ : Type}

/-- One thing more happens. -/
def add (e : Event) (w : Traced σ) : Traced σ :=
  { w with trace := w.trace ++ [e] }

end Traced

variable {σ α β ε : Type}

/-- Work that is asked for, with its trace. -/
def Work.traced (call : Call) (reply : α → Reply) (t : Work σ α) : Work (Traced σ) α := do
  Work.change (Traced.add (.called call))
  let answer ← t.on Traced.world fun world w => { w with world }
  Work.change (Traced.add (.returned call (reply answer)))
  return answer

/-- A gateway with the trace of its calls. -/
def Gateway.traced (g : Gateway σ) : Gateway (Traced σ) where
  synthesize sources top part := (g.synthesize sources top part).traced
    (.gateway (.synthesize sources top part)) fun r => .gateway (r.map .artifact)
  flash bitstream device := (g.flash bitstream device).traced
    (.gateway (.flash bitstream device)) fun r => .gateway (r.map .confirmation)
  analyze metric := (g.analyze metric).traced
    (.gateway (.analyze metric)) fun r => .gateway (r.map .report)
  verify testbench kind := (g.verify testbench kind).traced
    (.gateway (.verify testbench kind)) fun r => .gateway (r.map .verification)

/-- A channel with the trace of its samples. -/
def Channel.traced (ch : Channel σ) : Channel (Traced σ) where
  sample now w :=
    (⟨(ch.sample now w.world).1, w.trace ++ [.sampled (ch.sample now w.world).2]⟩,
      (ch.sample now w.world).2)

/-- Collaborators with the trace of what they are asked for. -/
def Collaborators.traced (c : Collaborators σ) : Collaborators (Traced σ) where
  files w := c.files w.world
  setFiles files w := { w with world := c.setFiles files w.world }
  build folder command limit := (c.build folder command limit).traced
    (.build folder command limit) .build
  gateway := c.gateway.traced
  openChannel := c.openChannel.traced .openChannel .openChannel
  channel := c.channel.traced

/-- A pipeline whose runs leave a trace. -/
def Pipeline.traced (p : Pipeline σ) : Pipeline (Traced σ) where
  settings := p.settings
  parts := p.parts.traced
  epoch := p.epoch

theorem Work.traced_apply (call : Call) (reply : α → Reply) (t : Work σ α) (now : Duration)
    (w : Traced σ) :
    t.traced call reply now w =
      ((t now w.world).embed fun world => ⟨world, w.trace ++ [.called call]⟩).andThen now
        fun r _ v => .done (v.add (.returned call (reply r))) r := rfl

/-- The trace is written beside the work. -/
theorem Work.Erases.traced (call : Call) (reply : α → Reply) (t : Work σ α) :
    Erases Traced.world (t.traced call reply) t := by
  intro now w
  rw [Work.traced_apply, Activity.embed_andThen _ _ fun r _ v => .done v r]
  · rw [Activity.embed_embed]
    exact (Activity.andThen_pure _ now).trans (Activity.embed_id _)
  · intro r t v
    rfl

/-- The trace is written beside the channel. -/
theorem Channel.traced_alike (ch : Channel σ) (started : Duration) :
    Alike (fun w v => w.world = v) started started ch.traced ch := by
  rintro elapsed w _ rfl
  exact ⟨rfl, rfl⟩

theorem Monitor.watch_traced (m : Monitor) (ch : Channel σ) (sentinel : UInt8)
    (timeout started elapsed : Duration) (w : Traced σ) :
    (m.watch ch.traced sentinel timeout started elapsed w).embed Traced.world =
      m.watch ch sentinel timeout started elapsed w.world :=
  (m.watch_alike (ch.traced_alike started) sentinel timeout elapsed w.world rfl).embed_eq

namespace Attempt

/-- A run in progress without its trace. -/
def untraced (a : Attempt (Traced σ)) : Attempt σ :=
  ⟨a.world.world, a.draft⟩

end Attempt

namespace Step

/-- The first step is the second one, once the trace is forgotten. -/
def Erases (x' : Step (Traced σ) α) (x : Step σ α) : Prop :=
  Work.Erases Attempt.untraced x'.run x.run

namespace Erases

theorem bind {x' : Step (Traced σ) α} {x : Step σ α} {f' : α → Step (Traced σ) β}
    {f : α → Step σ β} (hx : Erases x' x) (hf : ∀ v, Erases (f' v) (f v)) :
    Erases (x' >>= f') (x >>= f) := by
  intro now a
  rw [run_bind, run_bind, ← hx now a]
  refine Activity.embed_andThen _ _ _ now ?_
  intro r t b
  cases r with
  | ok v => exact hf v t b
  | error e => rfl

theorem call {t' : Work (Traced σ) (Except ε α)} {t : Work σ (Except ε α)} {stage : Stage}
    {reason : ε → PipelineError} (ht : Work.Erases Traced.world t' t) :
    Erases (Step.call stage reason t') (Step.call stage reason t) := by
  intro now a
  rw [run_call, run_call]
  refine (Activity.embed_andThen _ _ _ now ?_).trans (congrArg (Activity.andThen now _) ?_)
  · intro r t b
    cases r with
    | ok v => rfl
    | error e => rfl
  · have same : (t' now a.world).embed Traced.world = t now a.untraced.world := ht now a.world
    rw [← same, Activity.embed_embed, Activity.embed_embed]
    rfl

theorem pure (v : α) : Erases (Pure.pure v : Step (Traced σ) α) (Pure.pure v) := fun _ _ => rfl

theorem throw (e : StageFailure) :
    Erases (MonadExcept.throw e : Step (Traced σ) α) (MonadExcept.throw e) := fun _ _ => rfl

theorem check (stage : Stage) (reason : ε → PipelineError) (r : Except ε α) :
    Erases (Step.check (σ := Traced σ) stage reason r) (Step.check stage reason r) :=
  fun _ _ => rfl

theorem keep (g : Draft → Draft) : Erases (Step.keep (σ := Traced σ) g) (Step.keep g) :=
  fun _ _ => rfl

theorem record (epoch : Timestamp) (stage : Stage) (status : StageStatus) (detail : String) :
    Erases (Step.record (σ := Traced σ) epoch stage status detail)
      (Step.record epoch stage status detail) := fun _ _ => rfl

end Erases

end Step

namespace Pipeline

variable (p : Pipeline σ) (program : Program)

theorem patchSource_traced (w : Traced σ) :
    p.traced.patchSource program w =
      ({ w with world := (p.patchSource program w.world).1 },
        (p.patchSource program w.world).2) := by
  unfold patchSource
  dsimp only [traced, Collaborators.traced]
  cases Patch.apply (p.parts.files w.world) p.settings.patchTarget
    (Encoding.entries p.settings.patch.encoding program) with
  | ok result => rfl
  | error e => rfl

/-- The stages are the same with a trace. -/
theorem stages_traced : Step.Erases (p.traced.stages program) (p.stages program) := by
  have inject : Step.Erases (p.traced.inject program) (p.inject program) := by
    refine .bind (.call ?_) fun outcome => .record _ _ _ _
    intro now w
    unfold Work.act
    rw [patchSource_traced]
    rfl
  have build : Step.Erases p.traced.build p.build := by
    refine .bind (.call (.traced _ _ _)) fun result => .bind (.keep _) fun _ => ?_
    split
    · exact .record _ _ _ _
    · dsimp only [traced]
      split
      · exact .throw _
      · exact .record _ _ _ _
  have synthesize : Step.Erases p.traced.synthesize p.synthesize :=
    .bind (.call (.traced _ _ _)) fun _ => .bind (.keep _) fun _ =>
      .bind (.record _ _ _ _) fun _ => .pure _
  have flash (artifact : SynthesisArtifact) : Step.Erases (p.traced.flash artifact)
      (p.flash artifact) :=
    .bind (.call (.traced _ _ _)) fun _ => .bind (.keep _) fun _ => .record _ _ _ _
  have measure : Step.Erases p.traced.measure p.measure := by
    refine .bind (.call (.traced _ _ _)) fun _ => .bind (.call ?_) fun _ => .bind (.keep _)
      fun _ => .bind (.record _ _ _ _) fun _ => .pure _
    intro now w
    exact Monitor.watch_traced _ _ _ _ _ _ _
  have analyze : Step.Erases p.traced.analyze p.analyze :=
    .bind (.call (.traced _ _ _)) fun _ => .bind (.keep _) fun _ =>
      .bind (.record _ _ _ _) fun _ => .pure _
  have score (elapsed : Duration) (utilization : Utilization.Report) :
      Step.Erases (p.traced.score elapsed utilization) (p.score elapsed utilization) :=
    .bind (.check _ _ _) fun _ => .bind (.record _ _ _ _) fun _ => .pure _
  exact .bind inject fun _ => .bind build fun _ => .bind synthesize fun artifact =>
    .bind (flash artifact) fun _ => .bind measure fun elapsed => .bind analyze fun utilization =>
      score elapsed utilization

theorem attempt_traced (now : Duration) (a : Attempt (Traced σ)) :
    (p.traced.attempt program now a).embed Attempt.untraced =
      p.attempt program now a.untraced := by
  rw [attempt_apply, attempt_apply]
  refine (Activity.embed_andThen _ _ (fun r t b =>
    .done b (p.conclude b.draft (p.epoch.later t) r)) now fun _ _ _ => rfl).trans ?_
  have stages : ((p.traced.stages program).run now a).embed Attempt.untraced =
      (p.stages program).run now a.untraced := p.stages_traced program now a
  rw [Activity.embed_within, stages]
  rfl

/-- A run that leaves a trace is the run itself, once the trace is forgotten. -/
theorem run_traced (id : RunId) : Work.Erases Traced.world (p.traced.run id program)
    (p.run id program) := by
  intro now w
  unfold run
  have attempt := p.attempt_traced program now ⟨w, Draft.begin id program (p.epoch.later now)⟩
  rw [Activity.embed_embed]
  exact (Activity.embed_embed _ Attempt.untraced Attempt.world).symm.trans
    (congrArg (Activity.embed Attempt.world) attempt)

end Pipeline

end CoreTrial
