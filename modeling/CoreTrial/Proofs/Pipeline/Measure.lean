import CoreTrial.Proofs.Completion.Sampling
import CoreTrial.Proofs.Number.Rounding
import CoreTrial.Proofs.Pipeline.Completed
import CoreTrial.Proofs.Pipeline.Limit

/-!
# What a run has measured

A run that fails has been through the stages before the one it fails in, and what they have handed
on is in its draft. So the time that a run holds is what its wait has answered, also where a later
stage fails or is cut. The score is worked out at once, so no limit strikes there.
-/

set_option autoImplicit false

namespace CoreTrial

/-- The time that a run has measured, whether it failed or not. -/
def elapsedOf : Except RunFailure CompletedRun → Option Duration
  | .ok run => some run.elapsed
  | .error f => f.draft.elapsed

/-- A stage of a run has ended, and not in a failure. -/
def Passed (s : Stage) (r : Except RunFailure CompletedRun) : Prop :=
  ∃ o ∈ logOf r, o.stage = s ∧ o.status ≠ .failed

theorem Stage.eq_score {s : Stage} (lt : Stage.analyze.index < s.index) : s = .score := by
  cases s with
  | score => rfl
  | _ => exact absurd lt (by decide)

theorem Draft.elapsed_of_complete {d : Draft} {score : Score} {now : Timestamp} {run : CompletedRun}
    (h : d.complete score now = .ok run) : d.elapsed = some run.elapsed := by
  unfold Draft.complete at h
  split at h
  all_goals cases h
  assumption

/-- Only the measurement puts a time into the draft. -/
theorem Draft.Advances.elapsed {d d' : Draft} {s : Stage} (h : d.Advances s d')
    (other : s ≠ .measure) : d'.elapsed = d.elapsed := by
  cases h with
  | measure => exact absurd rfl other
  | _ => rfl

theorem Draft.Halts.elapsed {d d' : Draft} {s : Stage} {reason : PipelineError}
    (h : d.Halts s reason d') : d'.elapsed = d.elapsed := by
  cases h <;> rfl

/-- The score of a time is worked out exactly where the time is positive and finite. -/
theorem Score.of_eq_error_iff {elapsed : Number.Binary64} {report key : String}
    {e : NonPositiveElapsed} :
    Score.of elapsed report key = .error e ↔ elapsed.isPositiveFinite = false ∧ e = ⟨elapsed⟩ := by
  unfold Score.of
  split
  · rename_i positive
    refine iff_of_false nofun ?_
    rintro ⟨not_positive, -⟩
    rw [positive] at not_positive
    cases not_positive
  · rename_i not_positive
    rw [Bool.not_eq_true] at not_positive
    constructor
    · rintro ⟨⟩
      exact ⟨not_positive, rfl⟩
    · rintro ⟨-, rfl⟩
      rfl

namespace Monitor

variable {σ : Type} {sentinel : UInt8} {timeout start elapsed later : Duration} {ch : Channel σ}
  {v v' : σ}

/-- A wait that sees the sentinel has it from a sample at that time, and has none before. -/
theorem sampled_of_await {interval : Duration}
    (ends : ((every interval).await ch sentinel timeout).Ends start v (.ok elapsed) later v') :
    later = start + elapsed ∧ elapsed ≤ timeout ∧ ∃ samples,
      ((every interval).await ch.logged sentinel timeout).Ends start (v, []) (.ok elapsed) later
        (v', samples) ∧
      (⟨start + elapsed, .ok (some sentinel)⟩ : Sample) ∈ samples ∧
      ∀ s ∈ samples, s.answer = .ok (some sentinel) → start + elapsed ≤ s.time := by
  obtain ⟨u, samples, answer, offset, logged, -, in_time, sampling, settled⟩ :=
    (every interval).watch_samples onGrid_zero (Activity.spin?_of_finish? ends) []
  have alike := (every interval).watch_alike (ch.logged_alike start) sentinel timeout 0
    (w := (v, [])) v rfl
  obtain ⟨_, plain, rfl⟩ := alike.finish logged start
  cases ends.symm.trans plain
  cases found : samples.find? (Sample.settles sentinel) with
  | none =>
    rw [found] at settled
    cases settled.1
  | some s =>
    obtain ⟨time, brought⟩ := s
    obtain ⟨settles, before, after, same, earlier⟩ := List.find?_eq_some_iff_append.1 found
    rw [found] at settled
    cases brought with
    | error e => cases settled.1
    | ok byte =>
      obtain ⟨answer, rfl⟩ := settled
      cases answer
      cases byte with
      | none => cases settles
      | some byte =>
        obtain rfl : byte = sentinel := beq_iff_eq.1 settles
        refine ⟨rfl, in_time, samples, logged, ?_, ?_⟩
        · rw [same]
          exact List.mem_append_right before List.mem_cons_self
        · intro s mem brings
          have ordered := sampling.ordered
          rw [same] at mem ordered
          rcases List.mem_append.1 mem with mem | mem
          · have skipped := earlier s mem
            rw [Sample.settles, brings] at skipped
            simp at skipped
          · rcases List.mem_cons.1 mem with rfl | mem
            · exact Nat.le_refl _
            · exact (List.pairwise_cons.1 (List.pairwise_append.1 ordered).2.1).1 s mem

end Monitor

namespace Pipeline

variable {σ : Type} (p : Pipeline σ) {program : Program} {id : RunId} {now t : Duration}
  {world w : σ} {a b : Attempt σ}

/-- Where the first stages fail, one of them does, and those before it have ended well. -/
theorem exists_failing_stage {n : Nat} (hn : n ≤ 7) {f : StageFailure}
    (ends : ((p.first program n).run now a).finish? now = some (b, .error f, t)) :
    f.stage.index < n ∧ ∃ c handed u,
      ((p.first program f.stage.index).run now a).finish? now = some (c, .ok handed, u) ∧
      ((p.perform program f.stage.index handed).run u c).finish? u = some (b, .error f, t) := by
  induction n generalizing b t with
  | zero => cases ends
  | succ n ih =>
    obtain ⟨_, ⟨⟩, before⟩ | ⟨c, handed, u, before, failed⟩ := p.finish?_first_succ ends
    · obtain ⟨lt, rest⟩ := ih (by omega) before
      exact ⟨by omega, rest⟩
    · obtain ⟨s, rfl⟩ := Stage.exists_index_eq hn
      obtain ⟨rfl, -⟩ := (p.perform_meets program u c s handed).finish failed
      exact ⟨Nat.lt_succ_self _, c, handed, u, before, failed⟩

/-- The score is worked out at once: it fails where there is none of the time. -/
theorem finish?_score (elapsed : Duration) (utilization : Utilization.Report) (t : Duration)
    (b : Attempt σ) :
    ∃ c r, ((p.score elapsed utilization).run t b).finish? t = some (c, r, t) ∧
      (∀ score, r = .ok score → elapsed.seconds.isPositiveFinite = true) ∧
      ∀ f, r = .error f →
        elapsed.seconds.isPositiveFinite = false ∧ f = ⟨.score, .score ⟨elapsed.seconds⟩⟩ := by
  unfold Pipeline.score
  cases scored : Score.of elapsed.seconds utilization.raw p.settings.scoring.resourceKey with
  | ok s =>
    refine ⟨_, .ok s, rfl, fun score _ => ?_, fun f same => ?_⟩
    · by_contra not_positive
      rw [Score.of_eq_error_iff.2 ⟨Bool.eq_false_iff.2 not_positive, rfl⟩] at scored
      cases scored
    · cases same
  | error e =>
    refine ⟨_, .error ⟨.score, .score e⟩, rfl, fun score same => ?_, fun f same => ?_⟩
    · cases same
    · cases same
      obtain ⟨not_positive, rfl⟩ := Score.of_eq_error_iff.1 scored
      exact ⟨not_positive, rfl⟩

/-- The analysis hands the measured time on. -/
theorem firstEnd?_measure_of_analyze {elapsed : Duration} {utilization : Utilization.Report}
    (ends : p.firstEnd? id program now world 6 = some (b, .ok (elapsed, utilization), t)) :
    ∃ c u, p.firstEnd? id program now world 5 = some (c, .ok elapsed, u) := by
  obtain ⟨_, ⟨⟩, -⟩ | ⟨c, handed, u, before, last⟩ := p.finish?_first_succ ends
  refine ⟨c, u, ?_⟩
  obtain ⟨_, _, _, -, rest⟩ := Step.ends_bind_ok_iff.1 last
  cases rest
  exact before

/-- After the measurement the draft holds the measured time. -/
theorem elapsed_of_firstEnd? {n : Nat} (le : 5 ≤ n) (hn : n ≤ 7) {handed : Handed n}
    (ends : p.firstEnd? id program now world n = some (b, .ok handed, t)) :
    ∃ elapsed c u, p.firstEnd? id program now world 5 = some (c, .ok elapsed, u) ∧
      b.draft.elapsed = some elapsed := by
  induction n, le using Nat.le_induction generalizing b t with
  | base =>
    refine ⟨handed, b, t, ends, ?_⟩
    obtain ⟨_, ⟨⟩, -⟩ | ⟨c, _, u, -, last⟩ := p.finish?_first_succ ends
    obtain ⟨_, _, -, -, draft⟩ := p.measure_ends_iff.1 last
    rw [draft]
    rfl
  | succ n le ih =>
    obtain ⟨_, ⟨⟩, -⟩ | ⟨c, handed', u, before, last⟩ := p.finish?_first_succ ends
    obtain ⟨elapsed, c', u', measured, kept⟩ := ih (by omega) before
    obtain ⟨s, rfl⟩ := Stage.exists_index_eq hn
    have advances : c.draft.Advances s b.draft :=
      (p.perform_meets program u c s handed').finish last
    have other : s ≠ .measure := by
      rintro rfl
      exact absurd le (by decide)
    exact ⟨elapsed, c', u', measured, (advances.elapsed other).trans kept⟩

/-- How a run ends. It completes where all stages have handed on. Otherwise it fails in one that has
failed itself or is late, after those before it have ended well. Either way it keeps the time that
they have left. -/
theorem run_cases {r : Except RunFailure CompletedRun}
    (ends : (p.run id program).Ends now world r t w) :
    (∃ run, r = .ok run ∧ ∃ b score,
      p.firstEnd? id program now world 7 = some (b, .ok score, t) ∧
      b.draft.elapsed = some run.elapsed) ∨
    ∃ f, r = .error f ∧ ∃ b handed u,
      p.firstEnd? id program now world f.stage.index = some (b, .ok handed, u) ∧
      f.draft.elapsed = b.draft.elapsed ∧
      ((∃ c, ((p.perform program f.stage.index handed).run u b).finish? u =
          some (c, .error ⟨f.stage, f.reason⟩, t)) ∨
        ∃ limit, ((p.perform program f.stage.index handed).run u b).Late u limit) := by
  obtain ⟨c, q, t', whole, le⟩ | late | ⟨c, spins⟩ :=
    Activity.ends_or_late_or_spins now p.settings.runLimit
      ((p.first program 7).run now (p.outset id program now world))
  · cases ends.symm.trans (p.run_of_ends whole le)
    cases q with
    | ok score =>
      have reached := p.reached_of_firstEnd? (Nat.le_refl 7) whole
      obtain ⟨run, complete⟩ := reached.complete score (p.epoch.later t)
      refine .inl ⟨run, ?_, c, score, whole, Draft.elapsed_of_complete complete⟩
      rw [conclude, complete]
    | error g =>
      obtain ⟨-, b, handed, u, before, failed⟩ := p.exists_failing_stage (Nat.le_refl 7) whole
      obtain ⟨-, halts⟩ := (p.perform_meets program u b g.stage handed).finish failed
      exact .inr ⟨_, rfl, b, handed, u, before, halts.elapsed, .inl ⟨c, failed⟩⟩
  · obtain ⟨s, stage_late, b, handed, u, w', before, le, cut⟩ := p.cut_of_late late
    cases ends.symm.trans cut
    exact .inr ⟨_, rfl, b, handed, u, before, rfl, .inr ⟨_, p.late_perform stage_late before le⟩⟩
  -- A run that spins does not end.
  · obtain ⟨-, limited⟩ := p.spins_of_spins spins
    cases ends.symm.trans (Activity.finish?_of_spin? limited now)

/-- A run fails after the stages before the one it fails in have ended well, and keeps the time that
these have left. The stage has failed, or it is late. -/
theorem before_failure {f : RunFailure}
    (ends : (p.run id program).Ends now world (.error f) t w) :
    ∃ b handed u, p.firstEnd? id program now world f.stage.index = some (b, .ok handed, u) ∧
      f.draft.elapsed = b.draft.elapsed ∧
      ((∃ c, ((p.perform program f.stage.index handed).run u b).finish? u =
          some (c, .error ⟨f.stage, f.reason⟩, t)) ∨
        ∃ limit, ((p.perform program f.stage.index handed).run u b).Late u limit) := by
  obtain ⟨_, ⟨⟩, -⟩ | ⟨_, ⟨⟩, before⟩ := p.run_cases ends
  exact before

/-- A completed run has been through all stages. -/
theorem before_completion {run : CompletedRun}
    (ends : (p.run id program).Ends now world (.ok run) t w) :
    ∃ b score, p.firstEnd? id program now world 7 = some (b, .ok score, t) ∧
      b.draft.elapsed = some run.elapsed := by
  obtain ⟨_, ⟨⟩, before⟩ | ⟨_, ⟨⟩, -⟩ := p.run_cases ends
  exact before

/-- The stages that have ended well in a failed run are those before the one that failed. -/
theorem passed_iff_index_lt {f : RunFailure} {s : Stage}
    (ends : (p.run id program).Ends now world (.error f) t w) :
    Passed s (.error f) ↔ s.index < f.stage.index := by
  obtain ⟨before, after, at_, reached, halts, draft⟩ :=
    (p.run_logged program id now world).finish ends f rfl
  have log : f.draft.stages = before.stages ++ [⟨f.stage, .failed, f.reason.message, at_⟩] := by
    rw [draft, Draft.record, halts.log]
  have stages : before.stages.map (·.stage) = f.stage.before := reached.log
  rw [← Stage.mem_before_iff, ← stages]
  constructor
  · rintro ⟨o, mem, rfl, passed⟩
    change o ∈ f.draft.stages at mem
    rw [log] at mem
    rcases List.mem_append.1 mem with mem | mem
    · exact List.mem_map_of_mem mem
    · rw [List.mem_singleton.1 mem] at passed
      exact absurd rfl passed
  · intro earlier
    obtain ⟨o, mem, rfl⟩ := List.mem_map.1 earlier
    refine ⟨o, ?_, rfl, reached.unfailed o mem⟩
    change o ∈ f.draft.stages
    rw [log]
    exact List.mem_append_left _ mem

/-- A run that gets past the measurement holds what this has handed on. -/
theorem measured_of_passed {r : Except RunFailure CompletedRun}
    (ends : (p.run id program).Ends now world r t w) (passed : Passed .measure r) :
    ∃ elapsed c u, elapsedOf r = some elapsed ∧
      p.firstEnd? id program now world 5 = some (c, .ok elapsed, u) := by
  cases r with
  | ok run =>
    obtain ⟨b, score, whole, kept⟩ := p.before_completion ends
    obtain ⟨elapsed, c, u, measured, holds⟩ := p.elapsed_of_firstEnd? (by decide) (by decide) whole
    cases kept.symm.trans holds
    exact ⟨_, c, u, rfl, measured⟩
  | error f =>
    obtain ⟨b, handed, u, before, kept, -⟩ := p.before_failure ends
    have lt := (p.passed_iff_index_lt ends).1 passed
    obtain ⟨elapsed, c, u, measured, holds⟩ :=
      p.elapsed_of_firstEnd? lt (Nat.le_of_lt f.stage.index_lt) before
    exact ⟨elapsed, c, u, kept.trans holds, measured⟩

/-- The wait of a run begins: the device is programmed, and its channel has been opened. -/
def WaitBegins (p : Pipeline σ) (id : RunId) (program : Program) (now : Duration) (world : σ)
    (start : Duration) (v : σ) : Prop :=
  ∃ b t, p.firstEnd? id program now world 4 = some (b, .ok (), t) ∧
    p.parts.openChannel.Ends t b.world (.ok ()) start v

/-- A measured time is what the wait has answered. -/
theorem wait_of_firstEnd? {elapsed : Duration}
    (ends : p.firstEnd? id program now world 5 = some (b, .ok elapsed, t)) :
    ∃ start v, p.WaitBegins id program now world start v ∧
      ((Monitor.every p.settings.monitor.pollInterval).await p.parts.channel
        p.settings.monitor.sentinel p.settings.monitor.timeout).Ends start v (.ok elapsed) t
          b.world := by
  obtain ⟨_, ⟨⟩, -⟩ | ⟨c, _, u, before, last⟩ := p.finish?_first_succ ends
  obtain ⟨start, v, opens, await, -⟩ := p.measure_ends_iff.1 last
  exact ⟨start, v, ⟨c, u, before, opens⟩, await⟩

/-- How a run ends that has gone through the analysis: its wait has begun at `start` in `v`, has
taken `samples`, and has answered `elapsed`. -/
structure Scored (p : Pipeline σ) (id : RunId) (program : Program) (now : Duration) (world : σ)
    (r : Except RunFailure CompletedRun) (start : Duration) (v : σ) (elapsed : Duration)
    (samples : List Sample) : Prop where
  measured : elapsedOf r = some elapsed
  begins : p.WaitBegins id program now world start v
  waits : ∃ v', ((Monitor.every p.settings.monitor.pollInterval).await p.parts.channel.logged
    p.settings.monitor.sentinel p.settings.monitor.timeout).Ends start (v, []) (.ok elapsed)
      (start + elapsed) (v', samples)
  /-- The score fails exactly of an empty time; otherwise the run is completed. -/
  fails : (∃ f, r = .error f ∧ f.stage = .score) ↔ elapsed = 0
  completes : (∃ run, r = .ok run) ↔ elapsed ≠ 0
  reason : ∀ f, r = .error f → f.reason = .score ⟨elapsed.seconds⟩
  /-- The time is empty exactly if the sentinel was there when the wait began. -/
  instant : elapsed = 0 ↔
    (⟨start, .ok (some p.settings.monitor.sentinel)⟩ : Sample) ∈ samples

/-- The score of what the analysis hands on. -/
theorem scored_iff {r : Except RunFailure CompletedRun}
    (ends : (p.run id program).Ends now world r t w) (passed : Passed .analyze r) :
    ∃ elapsed c u, elapsedOf r = some elapsed ∧
      p.firstEnd? id program now world 5 = some (c, .ok elapsed, u) ∧
      ((∃ run, r = .ok run) ∧ elapsed.seconds.isPositiveFinite = true ∨
        ∃ f, r = .error f ∧ f.stage = .score ∧ f.reason = .score ⟨elapsed.seconds⟩ ∧
          elapsed.seconds.isPositiveFinite = false) := by
  cases r with
  | ok run =>
    obtain ⟨b, score, whole, kept⟩ := p.before_completion ends
    obtain ⟨elapsed, c, u, measured, holds⟩ := p.elapsed_of_firstEnd? (by decide) (by decide) whole
    cases kept.symm.trans holds
    obtain ⟨_, ⟨⟩, -⟩ | ⟨d, ⟨elapsed, utilization⟩, u', before, last⟩ := p.finish?_first_succ whole
    obtain ⟨c', u'', measured'⟩ := p.firstEnd?_measure_of_analyze before
    cases measured.symm.trans measured'
    obtain ⟨_, _, ends', positive, -⟩ := p.finish?_score run.elapsed utilization u' d
    cases ends'.symm.trans last
    exact ⟨_, c, u, rfl, measured, .inl ⟨⟨run, rfl⟩, positive score rfl⟩⟩
  | error f =>
    obtain ⟨b, handed, u, before, kept, last⟩ := p.before_failure ends
    have lt := (p.passed_iff_index_lt ends).1 passed
    obtain ⟨stage, reason, draft⟩ := f
    obtain rfl : stage = .score := Stage.eq_score lt
    obtain ⟨elapsed, c, u', measured, holds⟩ :=
      p.elapsed_of_firstEnd? (n := 6) (by decide) (by decide) before
    obtain ⟨elapsed', utilization⟩ := handed
    obtain ⟨c', u'', measured'⟩ := p.firstEnd?_measure_of_analyze before
    cases measured.symm.trans measured'
    obtain ⟨_, _, ends', -, failed⟩ := p.finish?_score elapsed utilization u b
    refine ⟨elapsed, c, u', kept.trans holds, measured, .inr ?_⟩
    obtain ⟨d, last⟩ | ⟨limit, late⟩ := last
    · cases ends'.symm.trans last
      obtain ⟨not_positive, same⟩ := failed _ rfl
      cases same
      exact ⟨_, rfl, rfl, rfl, not_positive⟩
    · exact absurd (late.ends_after _ _ _ ends') (Nat.not_lt.2 (Nat.le_add_right u limit))

/-- **Only an empty time has no score.** A run that gets through the analysis is completed, unless
its wait has found the sentinel at the very time at which it began; it then fails at the score. -/
theorem scored_unless_instant (short : p.settings.monitor.timeoutMillis < UInt64.size)
    {r : Except RunFailure CompletedRun}
    (ends : (p.run id program).Ends now world r t w) (passed : Passed .analyze r) :
    ∃ start v elapsed samples, p.Scored id program now world r start v elapsed samples := by
  obtain ⟨elapsed, c, u, measured, ended, outcome⟩ := p.scored_iff ends passed
  obtain ⟨start, v, begins, await⟩ := p.wait_of_firstEnd? ended
  obtain ⟨rfl, in_time, samples, logged, seen, least⟩ := Monitor.sampled_of_await await
  have small : elapsed < 2 ^ 128 := by
    refine Nat.lt_of_le_of_lt in_time ?_
    change p.settings.monitor.timeoutMillis * 1000000 < 2 ^ 128
    change p.settings.monitor.timeoutMillis < 2 ^ 64 at short
    omega
  have positive : elapsed.seconds.isPositiveFinite = true ↔ elapsed ≠ 0 :=
    (Duration.isPositiveFinite_seconds small).trans Nat.pos_iff_ne_zero
  rw [← Bool.not_eq_true, positive, not_not] at outcome
  refine ⟨start, v, elapsed, samples, ⟨measured, begins, ⟨_, logged⟩, ?_, ?_, ?_, ?_⟩⟩
  · obtain ⟨⟨run, rfl⟩, some_time⟩ | ⟨f, rfl, stage, -, no_time⟩ := outcome
    · refine iff_of_false ?_ some_time
      rintro ⟨f, same, -⟩
      cases same
    · exact iff_of_true ⟨f, rfl, stage⟩ no_time
  · obtain ⟨⟨run, rfl⟩, some_time⟩ | ⟨f, rfl, -, -, no_time⟩ := outcome
    · exact iff_of_true ⟨run, rfl⟩ some_time
    · refine iff_of_false ?_ fun some_time => some_time no_time
      rintro ⟨run, same⟩
      cases same
  · rintro g rfl
    obtain ⟨⟨run, same⟩, -⟩ | ⟨f, same, -, reason, -⟩ := outcome
    · cases same
    · cases same
      exact reason
  · constructor
    · rintro rfl
      exact seen
    · intro sampled
      have le := least _ sampled rfl
      exact Nat.le_zero.1 (Nat.le_of_add_le_add_left (a := start) le)

/-- Calls that succeed in time are those of a run that gets through the analysis. -/
theorem passed_of_called (id : RunId) {answers : Answers}
    (called : p.Called program now world answers t w)
    (tolerated : answers.build.succeeded = false → p.settings.build.onFailure = .continue)
    (le : t ≤ now + p.settings.runLimit) :
    ∃ r v, (p.run id program).Ends now world r t v ∧ (∀ s ≠ .score, Passed s r) ∧
      elapsedOf r = some answers.elapsed := by
  obtain ⟨d, analyzed⟩ := p.analyzed_of_called (a := p.outset id program now world) called tolerated
  obtain ⟨c, q, last, -⟩ := p.finish?_score answers.elapsed
    (Utilization.Report.parse answers.report.text) t ⟨w, d⟩
  have whole : p.firstEnd? id program now world 7 = some (c, q, t) :=
    (p.finish?_first_of_ok analyzed).trans last
  have ends := p.run_of_ends whole le
  have reached : d.Reached 6 := p.reached_of_firstEnd? (by decide) analyzed
  have kept := (p.log_prefix_of_firstEnd? program id now world (m := 6) (by decide) (Nat.le_refl 7)
    analyzed whole).trans (p.log_prefix_conclude c.draft (p.epoch.later t) (some q))
  have passed (s : Stage) (other : s ≠ .score) :
      Passed s (p.conclude c.draft (p.epoch.later t) (some q)) := by
    have logged : s ∈ d.stages.map (·.stage) := by
      rw [reached.log]
      revert other
      cases s <;> decide
    obtain ⟨o, mem, stage⟩ := List.mem_map.1 logged
    exact ⟨o, kept.subset mem, stage, reached.unfailed o mem⟩
  refine ⟨_, c.world, ends, passed, ?_⟩
  obtain ⟨elapsed, _, _, measured, ended, -⟩ := p.scored_iff ends (passed .analyze nofun)
  obtain ⟨_, _, ended'⟩ := p.firstEnd?_measure_of_analyze analyzed
  cases ended.symm.trans ended'
  exact measured

end Pipeline

end CoreTrial
