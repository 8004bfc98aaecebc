import CoreTrial.Proofs.Activity.Ends
import CoreTrial.Proofs.Pipeline.Stages

/-!
# What a run asks of its collaborators

A run is made of calls, and of what it notes at once between them. Where it succeeds, each call
has succeeded in the world and at the time that the one before has left; where it fails, a call
has, or its answer has been refused.
-/

set_option autoImplicit false

namespace CoreTrial

namespace Step

variable {σ α β ε : Type} {now later : Duration} {a b : Attempt σ} {stage : Stage}
  {reason : ε → PipelineError} {t : Work σ (Except ε α)} {x : Step σ α} {f : α → Step σ β}

/-- Steps one after the other end as the last one does, or as the first one that fails. -/
theorem ends_bind_iff {r : Except StageFailure β} :
    (x >>= f).run.Ends now a r later b ↔
      (∃ v mid c, x.run.Ends now a (.ok v) mid c ∧ (f v).run.Ends mid c r later b) ∨
        ∃ e, r = .error e ∧ x.run.Ends now a (.error e) later b := by
  unfold Work.Ends
  rw [run_bind, Activity.finish?_andThen, Option.bind_eq_some_iff]
  constructor
  · rintro ⟨⟨c, v | v, mid⟩, first, rest⟩
    · cases rest
      exact .inr ⟨v, rfl, first⟩
    · exact .inl ⟨v, mid, c, first, rest⟩
  · rintro (⟨v, mid, c, first, rest⟩ | ⟨e, rfl, first⟩)
    · exact ⟨_, first, rest⟩
    · exact ⟨_, first, rfl⟩

theorem ends_bind_ok_iff {v : β} :
    (x >>= f).run.Ends now a (.ok v) later b ↔
      ∃ u mid c, x.run.Ends now a (.ok u) mid c ∧ (f u).run.Ends mid c (.ok v) later b := by
  rw [ends_bind_iff, or_iff_left]
  rintro ⟨e, same, -⟩
  cases same

theorem ends_call_iff {r : Except StageFailure α} :
    (call stage reason t).run.Ends now a r later b ↔
      b.draft = a.draft ∧
        ((∃ v, r = .ok v ∧ t.Ends now a.world (.ok v) later b.world) ∨
          ∃ e, r = .error ⟨stage, reason e⟩ ∧ t.Ends now a.world (.error e) later b.world) := by
  obtain ⟨w, d⟩ := b
  unfold Work.Ends
  rw [run_call, Activity.finish?_andThen, Activity.finish?_embed]
  constructor
  · intro h
    obtain ⟨⟨c, u, mid⟩, first, rest⟩ := Option.bind_eq_some_iff.1 h
    obtain ⟨⟨w', u', mid'⟩, called, same⟩ := Option.map_eq_some_iff.1 first
    cases same
    cases u with
    | ok v =>
      cases rest
      exact ⟨rfl, .inl ⟨v, rfl, called⟩⟩
    | error e =>
      cases rest
      exact ⟨rfl, .inr ⟨e, rfl, called⟩⟩
  · rintro ⟨rfl, ⟨v, rfl, called⟩ | ⟨e, rfl, called⟩⟩
    · rw [called]
      rfl
    · rw [called]
      rfl

/-- A call that succeeds, and what follows it with the same draft. -/
theorem ends_call_bind_iff {v : β} :
    (call stage reason t >>= f).run.Ends now a (.ok v) later b ↔
      ∃ u mid w, t.Ends now a.world (.ok u) mid w ∧
        (f u).run.Ends mid ⟨w, a.draft⟩ (.ok v) later b := by
  rw [ends_bind_ok_iff]
  constructor
  · rintro ⟨u, mid, c, first, rest⟩
    obtain ⟨kept, ⟨_, same, called⟩ | ⟨e, same, -⟩⟩ := ends_call_iff.1 first
    · cases same
      rw [← kept]
      exact ⟨u, mid, c.world, called, rest⟩
    · cases same
  · rintro ⟨u, mid, w, called, rest⟩
    exact ⟨u, mid, ⟨w, a.draft⟩, ends_call_iff.2 ⟨rfl, .inl ⟨u, rfl, called⟩⟩, rest⟩

/-- All failures of a step have a reason of some kind. -/
def FailsWith (kind : PipelineError → Prop) (x : Step σ α) : Prop :=
  ∀ now a e later b, x.run.Ends now a (.error e) later b → kind e.reason

namespace FailsWith

variable {kind : PipelineError → Prop}

theorem bind (hx : x.FailsWith kind) (hf : ∀ v, (f v).FailsWith kind) :
    (x >>= f).FailsWith kind := by
  intro now a e later b h
  obtain ⟨v, mid, c, -, rest⟩ | ⟨e, same, first⟩ := ends_bind_iff.1 h
  · exact hf v mid c e later b rest
  · cases same
    exact hx now a e later b first

theorem call (h : ∀ e, kind (reason e)) : (call stage reason t).FailsWith kind := by
  intro now a e later b ends
  obtain ⟨-, ⟨_, same, -⟩ | ⟨e', same, -⟩⟩ := ends_call_iff.1 ends
  · cases same
  · cases same
    exact h e'

theorem check {r : Except ε α} (h : ∀ e, kind (reason e)) :
    FailsWith kind (Step.check stage reason r : Step σ α) := by
  intro now a e later b ends
  cases r with
  | ok v => cases ends
  | error e' =>
    cases ends
    exact h e'

theorem throw {e : StageFailure} (h : kind e.reason) :
    FailsWith kind (MonadExcept.throw e : Step σ α) := by
  intro now a e' later b ends
  cases ends
  exact h

theorem pure (v : α) : FailsWith kind (Pure.pure v : Step σ α) := by
  intro now a e later b ends
  cases ends

theorem keep (g : Draft → Draft) : (keep g : Step σ Unit).FailsWith kind := by
  intro now a e later b ends
  cases ends

theorem record (epoch : Timestamp) (stage : Stage) (status : StageStatus) (detail : String) :
    (record epoch stage status detail : Step σ Unit).FailsWith kind := by
  intro now a e later b ends
  cases ends

end FailsWith

end Step

/-- A reason other than the want of an output. -/
abbrev PipelineError.InStage (reason : PipelineError) : Prop :=
  ∀ stage, reason ≠ .missingOutput stage

/-- What the collaborators have answered in a run. -/
structure Answers where
  patch : PatchOutcome
  build : BuildResult
  artifact : SynthesisArtifact
  flash : FlashConfirmation
  elapsed : Duration
  report : AnalysisReport

namespace Pipeline

variable {σ : Type} (p : Pipeline σ) (program : Program)

/-- The calls of a run that all succeed, each in the world and at the time that the one before has
left. Only the flash depends on an answer, which is where the bitstream is. -/
inductive Called (now : Duration) (world : σ) : Answers → Duration → σ → Prop
  | intro {answers : Answers} {t₂ t₃ t₄ t₅ t₆ t₇ : Duration} {w₁ w₂ w₃ w₄ w₅ w₆ w₇ : σ}
      (patch : p.patchSource program world = (w₁, .ok answers.patch))
      (build : (p.parts.build p.settings.hardwareDir p.settings.build.command
        p.settings.build.timeout).Ends now w₁ (.ok answers.build) t₂ w₂)
      (synthesize : (p.parts.gateway.synthesize p.settings.hdlPaths p.settings.synthesis.topModule
        p.settings.synthesis.partNumber).Ends t₂ w₂ (.ok answers.artifact) t₃ w₃)
      (flash : (p.parts.gateway.flash answers.artifact.bitstream
        p.settings.synthesis.deviceId).Ends t₃ w₃ (.ok answers.flash) t₄ w₄)
      (opens : p.parts.openChannel.Ends t₄ w₄ (.ok ()) t₅ w₅)
      (await : ((Monitor.every p.settings.monitor.pollInterval).await p.parts.channel
        p.settings.monitor.sentinel p.settings.monitor.timeout).Ends t₅ w₅
          (.ok answers.elapsed) t₆ w₆)
      (analyze : (p.parts.gateway.analyze Metric.utilization.name).Ends t₆ w₆
        (.ok answers.report) t₇ w₇) :
      Called now world answers t₇ w₇

variable {program} {now later : Duration} {a b : Attempt σ}

theorem inject_ends_iff :
    (p.inject program).run.Ends now a (.ok ()) later b ↔
      ∃ outcome, p.patchSource program a.world = (b.world, .ok outcome) ∧ later = now ∧
        b.draft = a.draft.record .inject .succeeded (patchDetail outcome) (p.epoch.later now) := by
  obtain ⟨w, d⟩ := b
  unfold inject
  rw [Step.ends_call_bind_iff]
  constructor
  · rintro ⟨outcome, mid, w, called, rest⟩
    cases rest
    unfold Work.Ends Work.act at called
    cases patched : p.patchSource program a.world with
    | mk w' r =>
      rw [patched] at called
      cases called
      exact ⟨outcome, rfl, rfl, rfl⟩
  · rintro ⟨outcome, patched, rfl, rfl⟩
    refine ⟨outcome, later, w, ?_, rfl⟩
    unfold Work.Ends Work.act
    rw [patched]
    rfl

theorem build_ends_iff :
    p.build.run.Ends now a (.ok ()) later b ↔
      ∃ result, (p.parts.build p.settings.hardwareDir p.settings.build.command
          p.settings.build.timeout).Ends now a.world (.ok result) later b.world ∧
        (result.succeeded = false → p.settings.build.onFailure = .continue) ∧
        b.draft = { a.draft with build := some result }.record .build
          (if result.succeeded then .succeeded else .warned) result.describe
            (p.epoch.later later) := by
  obtain ⟨w, d⟩ := b
  unfold build
  rw [Step.ends_call_bind_iff]
  constructor
  · rintro ⟨result, mid, w', called, rest⟩
    refine ⟨result, ?_⟩
    unfold Work.Ends at rest
    rw [Step.run_keep_bind] at rest
    cases succeeded : result.succeeded with
    | true =>
      rw [succeeded] at rest
      cases rest
      exact ⟨called, nofun, rfl⟩
    | false =>
      rw [succeeded] at rest
      cases policy : p.settings.build.onFailure with
      | abort =>
        rw [policy] at rest
        cases rest
      | «continue» =>
        rw [policy] at rest
        cases rest
        exact ⟨called, fun _ => rfl, rfl⟩
  · rintro ⟨result, called, tolerated, rfl⟩
    refine ⟨result, later, w, called, ?_⟩
    unfold Work.Ends
    rw [Step.run_keep_bind]
    cases succeeded : result.succeeded with
    | true => rfl
    | false =>
      rw [tolerated succeeded]
      rfl

theorem synthesize_ends_iff {artifact : SynthesisArtifact} :
    p.synthesize.run.Ends now a (.ok artifact) later b ↔
      (p.parts.gateway.synthesize p.settings.hdlPaths p.settings.synthesis.topModule
          p.settings.synthesis.partNumber).Ends now a.world (.ok artifact) later b.world ∧
        b.draft = { a.draft with artifact := some artifact }.record .synthesize .succeeded
          artifact.summary (p.epoch.later later) := by
  obtain ⟨w, d⟩ := b
  unfold synthesize
  rw [Step.ends_call_bind_iff]
  constructor
  · rintro ⟨artifact, mid, w, called, rest⟩
    cases rest
    exact ⟨called, rfl⟩
  · rintro ⟨called, rfl⟩
    exact ⟨artifact, later, w, called, rfl⟩

theorem flash_ends_iff {artifact : SynthesisArtifact} :
    (p.flash artifact).run.Ends now a (.ok ()) later b ↔
      ∃ confirmation, (p.parts.gateway.flash artifact.bitstream
          p.settings.synthesis.deviceId).Ends now a.world (.ok confirmation) later b.world ∧
        b.draft = { a.draft with flash := some confirmation }.record .flash .succeeded
          confirmation.message (p.epoch.later later) := by
  obtain ⟨w, d⟩ := b
  unfold flash
  rw [Step.ends_call_bind_iff]
  constructor
  · rintro ⟨confirmation, mid, w, called, rest⟩
    cases rest
    exact ⟨confirmation, called, rfl⟩
  · rintro ⟨confirmation, called, rfl⟩
    exact ⟨confirmation, later, w, called, rfl⟩

theorem measure_ends_iff {elapsed : Duration} :
    p.measure.run.Ends now a (.ok elapsed) later b ↔
      ∃ mid w, p.parts.openChannel.Ends now a.world (.ok ()) mid w ∧
        ((Monitor.every p.settings.monitor.pollInterval).await p.parts.channel
          p.settings.monitor.sentinel p.settings.monitor.timeout).Ends mid w (.ok elapsed)
            later b.world ∧
        b.draft = { a.draft with elapsed := some elapsed }.record .measure .succeeded
          (elapsed.seconds.toFixed 4 ++ "s") (p.epoch.later later) := by
  obtain ⟨w, d⟩ := b
  unfold measure
  simp only [Step.ends_call_bind_iff]
  constructor
  · rintro ⟨_, mid, w, opens, elapsed, mid', w', awaits, rest⟩
    cases rest
    exact ⟨mid, w, opens, awaits, rfl⟩
  · rintro ⟨mid, w', opens, awaits, rfl⟩
    exact ⟨(), mid, w', opens, elapsed, later, w, awaits, rfl⟩

theorem analyze_ends_iff {utilization : Utilization.Report} :
    p.analyze.run.Ends now a (.ok utilization) later b ↔
      ∃ report, (p.parts.gateway.analyze Metric.utilization.name).Ends now a.world (.ok report)
          later b.world ∧
        utilization = Utilization.Report.parse report.text ∧
        b.draft = { a.draft with utilization := some utilization }.record .analyze .succeeded
          utilization.describe (p.epoch.later later) := by
  obtain ⟨w, d⟩ := b
  unfold analyze
  rw [Step.ends_call_bind_iff]
  constructor
  · rintro ⟨report, mid, w, called, rest⟩
    cases rest
    exact ⟨report, called, rfl, rfl⟩
  · rintro ⟨report, called, rfl, rfl⟩
    exact ⟨report, later, w, called, rfl⟩

theorem score_ends_iff {elapsed : Duration} {utilization : Utilization.Report} {score : Score} :
    (p.score elapsed utilization).run.Ends now a (.ok score) later b ↔
      Score.of elapsed.seconds utilization.raw p.settings.scoring.resourceKey = .ok score ∧
        later = now ∧
        b = ⟨a.world, a.draft.record .score (if score.defaulted then .warned else .succeeded)
          score.describe (p.epoch.later now)⟩ := by
  unfold Pipeline.score
  cases scored : Score.of elapsed.seconds utilization.raw p.settings.scoring.resourceKey with
  | error e => exact iff_of_false nofun nofun
  | ok s =>
    constructor
    · intro h
      cases h
      exact ⟨rfl, rfl, rfl⟩
    · rintro ⟨same, rfl, rfl⟩
      cases same
      rfl

/-- No stage fails for want of an output. -/
theorem stages_failsWith : (p.stages program).FailsWith PipelineError.InStage := by
  have inject : (p.inject program).FailsWith PipelineError.InStage :=
    .bind (.call fun _ => nofun) fun _ => .record _ _ _ _
  have build : p.build.FailsWith PipelineError.InStage := by
    refine .bind (.call fun _ => nofun) fun result => .bind (.keep _) fun _ => ?_
    split
    · exact .record _ _ _ _
    · split
      · exact .throw nofun
      · exact .record _ _ _ _
  have synthesize : p.synthesize.FailsWith PipelineError.InStage :=
    .bind (.call fun _ => nofun) fun _ => .bind (.keep _) fun _ =>
      .bind (.record _ _ _ _) fun _ => .pure _
  have flash (artifact : SynthesisArtifact) :
      (p.flash artifact).FailsWith PipelineError.InStage :=
    .bind (.call fun _ => nofun) fun _ => .bind (.keep _) fun _ => .record _ _ _ _
  have measure : p.measure.FailsWith PipelineError.InStage :=
    .bind (.call fun _ => nofun) fun _ => .bind (.call fun _ => nofun) fun _ =>
      .bind (.keep _) fun _ => .bind (.record _ _ _ _) fun _ => .pure _
  have analyze : p.analyze.FailsWith PipelineError.InStage :=
    .bind (.call fun _ => nofun) fun _ => .bind (.keep _) fun _ =>
      .bind (.record _ _ _ _) fun _ => .pure _
  have score (elapsed : Duration) (utilization : Utilization.Report) :
      (p.score elapsed utilization).FailsWith PipelineError.InStage :=
    .bind (.check fun _ => nofun) fun _ => .bind (.record _ _ _ _) fun _ => .pure _
  exact .bind inject fun _ => .bind build fun _ => .bind synthesize fun artifact =>
    .bind (flash artifact) fun _ => .bind measure fun elapsed => .bind analyze fun utilization =>
      score elapsed utilization

end Pipeline

end CoreTrial
