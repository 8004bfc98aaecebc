import CoreTrial.Pipeline.Basic
import CoreTrial.Proofs.Activity.Meets

/-!
# A run, stage by stage

`Pipeline.first` is a run cut after a number of stages; the run of all seven is the whole of
`Pipeline.stages`. Each stage is a call to collaborators, which never touches the draft, and then
an output and an entry at once. So a stage leaves the draft as it is while it waits, and
`perform_meets` says all that it can do to the draft at its end.
-/

set_option autoImplicit false

namespace CoreTrial

/-- What a stage that ends well does to the draft. -/
inductive Draft.Advances (d : Draft) : Stage → Draft → Prop
  | inject (detail : String) (now : Timestamp) :
      d.Advances .inject (d.record .inject .succeeded detail now)
  | build (result : BuildResult) (now : Timestamp) (succeeded : result.succeeded = true) :
      d.Advances .build
        ({ d with build := some result }.record .build .succeeded result.describe now)
  /-- A build that did not succeed and is tolerated. -/
  | tolerate (result : BuildResult) (now : Timestamp) (failed : result.succeeded = false) :
      d.Advances .build
        ({ d with build := some result }.record .build .warned result.describe now)
  | synthesize (artifact : SynthesisArtifact) (now : Timestamp) :
      d.Advances .synthesize
        ({ d with artifact := some artifact }.record .synthesize .succeeded artifact.summary now)
  | flash (confirmation : FlashConfirmation) (now : Timestamp) :
      d.Advances .flash
        ({ d with flash := some confirmation }.record .flash .succeeded confirmation.message now)
  | measure (elapsed : Duration) (detail : String) (now : Timestamp) :
      d.Advances .measure
        ({ d with elapsed := some elapsed }.record .measure .succeeded detail now)
  | analyze (utilization : Utilization.Report) (now : Timestamp) :
      d.Advances .analyze
        ({ d with utilization := some utilization }.record .analyze .succeeded
          utilization.describe now)
  | score (score : Score) (now : Timestamp) :
      d.Advances .score
        (d.record .score (if score.defaulted then .warned else .succeeded) score.describe now)

/-- What a stage that fails does to the draft: only a build that is not tolerated leaves its
output. -/
inductive Draft.Halts (d : Draft) : Stage → PipelineError → Draft → Prop
  | stopped {stage : Stage} {reason : PipelineError}
      (other : ∀ result, reason ≠ .buildFailure result) : d.Halts stage reason d
  | refused (result : BuildResult) :
      d.Halts .build (.buildFailure result) { d with build := some result }

namespace Pipeline

variable {σ : Type}

/-- What the first `n` stages hand on to the stages after them. -/
abbrev Handed : Nat → Type
  | 3 => SynthesisArtifact
  | 5 => Duration
  | 6 => Duration × Utilization.Report
  | 7 => Score
  | _ => Unit

/-- The stage that follows the first `n`, with what these hand to it. -/
def perform (p : Pipeline σ) (program : Program) : (n : Nat) → Handed n → Step σ (Handed (n + 1))
  | 0, _ => p.inject program
  | 1, _ => p.build
  | 2, _ => p.synthesize
  | 3, artifact => p.flash artifact
  | 4, _ => p.measure
  | 5, elapsed => do
    let utilization ← p.analyze
    return (elapsed, utilization)
  | 6, (elapsed, utilization) => p.score elapsed utilization
  | _ + 7, _ => pure ()

/-- The first `n` stages. -/
def first (p : Pipeline σ) (program : Program) : (n : Nat) → Step σ (Handed n)
  | 0 => pure ()
  | n + 1 => p.first program n >>= p.perform program n

/-- All stages are the first seven. -/
theorem first_all (p : Pipeline σ) (program : Program) : p.first program 7 = p.stages program := by
  simp only [first, perform, stages, bind_assoc, pure_bind]
  rfl

end Pipeline

namespace Step

variable {σ α β ε : Type} {now : Duration} {a : Attempt σ}

theorem run_bind (x : Step σ α) (f : α → Step σ β) (now : Duration) (a : Attempt σ) :
    (x >>= f).run now a = (x.run now a).andThen now fun r t b =>
      match r with
      | .ok v => (f v).run t b
      | .error e => .done b (.error e) := by
  rw [ExceptT.run_bind, Work.bind_apply]
  congr
  funext r
  cases r <;> rfl

theorem run_keep_bind (g : Draft → Draft) (f : Unit → Step σ α) (now : Duration)
    (a : Attempt σ) :
    (keep g >>= f).run now a = (f ()).run now { a with draft := g a.draft } := rfl

theorem run_record (epoch : Timestamp) (stage : Stage) (status : StageStatus)
    (detail : String) (now : Duration) (a : Attempt σ) :
    (record epoch stage status detail).run now a =
      .done { a with draft := a.draft.record stage status detail (epoch.later now) } (.ok ()) := rfl

theorem run_record_bind (epoch : Timestamp) (stage : Stage) (status : StageStatus)
    (detail : String) (f : Unit → Step σ α) (now : Duration) (a : Attempt σ) :
    (record epoch stage status detail >>= f).run now a =
      (f ()).run now
        { a with draft := a.draft.record stage status detail (epoch.later now) } := rfl

theorem run_call (stage : Stage) (reason : ε → PipelineError) (t : Work σ (Except ε α))
    (now : Duration) (a : Attempt σ) :
    (call stage reason t).run now a =
      ((t now a.world).embed fun w => { a with world := w }).andThen now fun r _ b =>
        match r with
        | .ok v => .done b (.ok v)
        | .error e => .done b (.error ⟨stage, reason e⟩) := by
  change Activity.andThen _ _ _ = _
  congr
  funext r t b
  cases r <;> rfl

/-- A call to a collaborator leaves the draft as it is. -/
theorem meets_call (stage : Stage) (reason : ε → PipelineError) (t : Work σ (Except ε α))
    (now : Duration) (a : Attempt σ) :
    ((call stage reason t).run now a).Meets (fun b => b.draft = a.draft) fun b r =>
      b.draft = a.draft ∧ ∀ f, r = .error f → ∃ e, f = ⟨stage, reason e⟩ := by
  rw [run_call]
  refine Activity.Meets.andThen (Activity.Meets.embed ?_) now
  refine (Activity.Meets.unknown _).mono (fun _ _ => rfl) fun w r _ t => ?_
  cases r with
  | ok v => exact .done ⟨rfl, fun f h => nomatch h⟩
  | error e => exact .done ⟨rfl, fun f h => ⟨e, (Except.error.inj h).symm⟩⟩

/-- How a stage that starts with a draft ends. -/
def Ended (stage : Stage) (d : Draft) (b : Attempt σ) : Except StageFailure α → Prop
  | .ok _ => d.Advances stage b.draft
  | .error f => f.stage = stage ∧ d.Halts stage f.reason b.draft

/-- Work that starts with a call to a collaborator, and goes on with the same draft. -/
theorem meets_call_bind {stage : Stage} {reason : ε → PipelineError} {t : Work σ (Except ε α)}
    {f : α → Step σ β} {d : Draft} (hd : a.draft = d) (other : ∀ e r, reason e ≠ .buildFailure r)
    (next : ∀ v t b, b.draft = d →
      ((f v).run t b).Meets (fun c => c.draft = d) (Ended stage d)) :
    ((call stage reason t >>= f).run now a).Meets (fun c => c.draft = d) (Ended stage d) := by
  rw [run_bind]
  refine Activity.Meets.andThen ((meets_call stage reason t now a).mono ?_ ?_) now
  · intro b hb
    exact hb.trans hd
  · rintro b r ⟨hb, failure⟩ t
    cases r with
    | ok v => exact next v t b (hb.trans hd)
    | error f =>
      obtain ⟨e, rfl⟩ := failure f rfl
      refine .done ⟨rfl, ?_⟩
      rw [hb.trans hd]
      exact .stopped (other e)

end Step

namespace Pipeline

variable {σ : Type} (p : Pipeline σ) (program : Program) (now : Duration) (a : Attempt σ)

theorem inject_meets :
    ((p.inject program).run now a).Meets (fun b => b.draft = a.draft)
      (Step.Ended .inject a.draft) := by
  refine Step.meets_call_bind rfl (fun _ _ h => nomatch h) fun outcome t b hb => ?_
  rw [Step.run_record, ← hb]
  exact .done (Draft.Advances.inject _ _)

theorem build_meets :
    (p.build.run now a).Meets (fun b => b.draft = a.draft) (Step.Ended .build a.draft) := by
  refine Step.meets_call_bind rfl (fun _ _ h => nomatch h) fun result t b hb => ?_
  rw [Step.run_keep_bind, hb]
  split
  · rename_i succeeded
    rw [Step.run_record]
    exact .done (Draft.Advances.build result _ succeeded)
  · rename_i failed
    cases p.settings.build.onFailure with
    | abort => exact .done ⟨rfl, .refused result⟩
    | «continue» =>
      rw [Step.run_record]
      exact .done (Draft.Advances.tolerate result _ (by simpa using failed))

theorem synthesize_meets :
    (p.synthesize.run now a).Meets (fun b => b.draft = a.draft)
      (Step.Ended .synthesize a.draft) := by
  refine Step.meets_call_bind rfl (fun _ _ h => nomatch h) fun artifact t b hb => ?_
  rw [Step.run_keep_bind, Step.run_record_bind, ← hb]
  exact .done (Draft.Advances.synthesize artifact _)

theorem flash_meets (artifact : SynthesisArtifact) :
    ((p.flash artifact).run now a).Meets (fun b => b.draft = a.draft)
      (Step.Ended .flash a.draft) := by
  refine Step.meets_call_bind rfl (fun _ _ h => nomatch h) fun confirmation t b hb => ?_
  rw [Step.run_keep_bind, Step.run_record, ← hb]
  exact .done (Draft.Advances.flash confirmation _)

theorem measure_meets :
    (p.measure.run now a).Meets (fun b => b.draft = a.draft) (Step.Ended .measure a.draft) := by
  refine Step.meets_call_bind rfl (fun _ _ h => nomatch h) fun _ t b hb => ?_
  refine Step.meets_call_bind hb (fun _ _ h => nomatch h) fun elapsed u c hc => ?_
  rw [Step.run_keep_bind, Step.run_record_bind, ← hc]
  exact .done (Draft.Advances.measure elapsed _ _)

theorem analyze_meets :
    (p.analyze.run now a).Meets (fun b => b.draft = a.draft) (Step.Ended .analyze a.draft) := by
  refine Step.meets_call_bind rfl (fun _ _ h => nomatch h) fun report t b hb => ?_
  rw [Step.run_keep_bind, Step.run_record_bind, ← hb]
  exact .done (Draft.Advances.analyze _ _)

theorem score_meets (elapsed : Duration) (utilization : Utilization.Report) :
    ((p.score elapsed utilization).run now a).Meets (fun b => b.draft = a.draft)
      (Step.Ended .score a.draft) := by
  unfold score
  rw [Step.run_bind]
  cases h : Score.of elapsed.seconds utilization.raw p.settings.scoring.resourceKey with
  | ok score => exact .done (Draft.Advances.score score _)
  | error e => exact .done ⟨rfl, .stopped fun _ h => nomatch h⟩

/-- A stage leaves the draft as it is while it waits, and ends as `Draft.Advances` and
`Draft.Halts` say. -/
theorem perform_meets (s : Stage) (handed : Handed s.index) :
    ((p.perform program s.index handed).run now a).Meets (fun b => b.draft = a.draft)
      (Step.Ended s a.draft) := by
  cases s with
  | inject => exact p.inject_meets program now a
  | build => exact p.build_meets now a
  | synthesize => exact p.synthesize_meets now a
  | flash => exact p.flash_meets now a handed
  | measure => exact p.measure_meets now a
  | analyze =>
    show ((p.analyze >>= fun u => pure (handed, u)).run now a).Meets _ _
    rw [Step.run_bind]
    refine Activity.Meets.andThen ((p.analyze_meets now a).mono (fun _ h => h) ?_) now
    intro b r h t
    cases r with
    | ok utilization => exact .done h
    | error f => exact .done h
  | score => exact p.score_meets now a handed.1 handed.2

end Pipeline

end CoreTrial
