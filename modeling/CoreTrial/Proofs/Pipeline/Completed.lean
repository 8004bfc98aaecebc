import CoreTrial.Proofs.Completion.Grid
import CoreTrial.Proofs.Pipeline.Calls
import CoreTrial.Proofs.Pipeline.Yields
import CoreTrial.Proofs.Utilization.Agreement

/-!
# What a completed run holds

A run that comes to a score has been through all stages: its log has one entry for each, its
outputs are what the collaborators have answered, and its score is that of its own time and its
own report. So no output can be missing at the end.
-/

set_option autoImplicit false

namespace CoreTrial

/-- How a stage of a completed run has ended. -/
def CompletedRun.statusOf (run : CompletedRun) : Stage → StageStatus
  | .build => if run.build.exitCode = some 0 then .succeeded else .warned
  | .score => if run.score.defaulted then .warned else .succeeded
  | _ => .succeeded

/-- What a score says of the share of a design. -/
theorem Score.share_of {elapsed : Number.Binary64} {text key : String} {score : Score}
    (h : Score.of elapsed text key = .ok score) :
    (score.defaulted = true ↔ Utilization.percentage? text key = none) ∧
      ∀ percent, Utilization.percentage? text key = some percent →
        score.utilizationPercent = max percent 1 := by
  unfold Score.of at h
  split at h
  · cases h
    refine ⟨by simp, fun percent reported => ?_⟩
    simp only [reported, Option.getD_some, Score.leastPercent]
    show _ = if percent ≤ 1 then 1 else percent
    grind
  · cases h

/-- An entry of a log without its time. -/
def StageOutcome.entry (o : StageOutcome) : Stage × StageStatus × String :=
  (o.stage, o.status, o.detail)

/-- The entries of a run that has come to a score. -/
def Answers.entries (answers : Answers) (score : Score) : List (Stage × StageStatus × String) := [
  (.inject, .succeeded, Pipeline.patchDetail answers.patch),
  (.build, if answers.build.succeeded then .succeeded else .warned, answers.build.describe),
  (.synthesize, .succeeded, answers.artifact.summary),
  (.flash, .succeeded, answers.flash.message),
  (.measure, .succeeded, answers.elapsed.seconds.toFixed 4 ++ "s"),
  (.analyze, .succeeded, (Utilization.Report.parse answers.report.text).describe),
  (.score, if score.defaulted then .warned else .succeeded, score.describe)]

namespace Pipeline

variable {σ : Type} (p : Pipeline σ) {program : Program} {now later : Duration} {a b : Attempt σ}

/-- All stages have ended well: the draft holds what the collaborators have answered. -/
theorem stages_ends {score : Score} (h : (p.stages program).run.Ends now a (.ok score) later b) :
    ∃ answers, p.Called program now a.world answers later b.world ∧
      (answers.build.succeeded = false → p.settings.build.onFailure = .continue) ∧
      Score.of answers.elapsed.seconds answers.report.text p.settings.scoring.resourceKey =
        .ok score ∧
      ∃ log : List StageOutcome, b.draft = { a.draft with
          build := some answers.build
          artifact := some answers.artifact
          flash := some answers.flash
          elapsed := some answers.elapsed
          utilization := some (Utilization.Report.parse answers.report.text)
          stages := a.draft.stages ++ log } ∧
        log.map StageOutcome.entry = answers.entries score := by
  obtain ⟨_, t₁, c₁, injected, h⟩ := Step.ends_bind_ok_iff.1 h
  obtain ⟨_, t₂, c₂, built, h⟩ := Step.ends_bind_ok_iff.1 h
  obtain ⟨artifact, t₃, c₃, synthesized, h⟩ := Step.ends_bind_ok_iff.1 h
  obtain ⟨_, t₄, c₄, flashed, h⟩ := Step.ends_bind_ok_iff.1 h
  obtain ⟨elapsed, t₅, c₅, measured, h⟩ := Step.ends_bind_ok_iff.1 h
  obtain ⟨utilization, t₆, c₆, analyzed, scored⟩ := Step.ends_bind_ok_iff.1 h
  obtain ⟨outcome, patch, rfl, draft₁⟩ := p.inject_ends_iff.1 injected
  obtain ⟨result, build, tolerated, draft₂⟩ := p.build_ends_iff.1 built
  obtain ⟨synthesize, draft₃⟩ := p.synthesize_ends_iff.1 synthesized
  obtain ⟨confirmation, flash, draft₄⟩ := p.flash_ends_iff.1 flashed
  obtain ⟨t', w, opens, await, draft₅⟩ := p.measure_ends_iff.1 measured
  obtain ⟨report, analyze, rfl, draft₆⟩ := p.analyze_ends_iff.1 analyzed
  obtain ⟨value, rfl, rfl⟩ := p.score_ends_iff.1 scored
  refine ⟨⟨outcome, result, artifact, confirmation, elapsed, report⟩,
    .intro patch build synthesize flash opens await analyze, tolerated, value, ?_⟩
  rw [draft₆, draft₅, draft₄, draft₃, draft₂, draft₁]
  simp only [Draft.record, List.append_assoc]
  exact ⟨_, rfl, rfl⟩

/-- Where all calls succeed, the stages up to the analysis end well. -/
theorem analyzed_of_called {answers : Answers} {w : σ}
    (called : p.Called program now a.world answers later w)
    (tolerated : answers.build.succeeded = false → p.settings.build.onFailure = .continue) :
    ∃ d, (p.first program 6).run.Ends now a
      (.ok (answers.elapsed, Utilization.Report.parse answers.report.text)) later ⟨w, d⟩ := by
  cases called with
  | @intro t₂ t₃ t₄ t₅ t₆ _ w₁ w₂ w₃ w₄ w₅ w₆ _ patch build synthesize flash opens await
      analyze =>
    obtain ⟨d₁, injected⟩ : ∃ d, (p.first program 1).run.Ends now a (.ok ()) now ⟨w₁, d⟩ :=
      ⟨_, Step.ends_bind_ok_iff.2 ⟨(), _, _, rfl, p.inject_ends_iff.2 ⟨_, patch, rfl, rfl⟩⟩⟩
    obtain ⟨d₂, built⟩ : ∃ d, (p.first program 2).run.Ends now a (.ok ()) t₂ ⟨w₂, d⟩ :=
      ⟨_, Step.ends_bind_ok_iff.2
        ⟨(), _, _, injected, p.build_ends_iff.2 ⟨_, build, tolerated, rfl⟩⟩⟩
    obtain ⟨d₃, synthesized⟩ :
        ∃ d, (p.first program 3).run.Ends now a (.ok answers.artifact) t₃ ⟨w₃, d⟩ :=
      ⟨_, Step.ends_bind_ok_iff.2
        ⟨(), _, _, built, p.synthesize_ends_iff.2 ⟨synthesize, rfl⟩⟩⟩
    obtain ⟨d₄, flashed⟩ : ∃ d, (p.first program 4).run.Ends now a (.ok ()) t₄ ⟨w₄, d⟩ :=
      ⟨_, Step.ends_bind_ok_iff.2
        ⟨answers.artifact, _, _, synthesized, p.flash_ends_iff.2 ⟨_, flash, rfl⟩⟩⟩
    obtain ⟨d₅, measured⟩ :
        ∃ d, (p.first program 5).run.Ends now a (.ok answers.elapsed) t₆ ⟨w₆, d⟩ :=
      ⟨_, Step.ends_bind_ok_iff.2
        ⟨(), _, _, flashed, p.measure_ends_iff.2 ⟨t₅, w₅, opens, await, rfl⟩⟩⟩
    obtain ⟨d₆, analyzed⟩ : ∃ d, p.analyze.run.Ends t₆ ⟨w₆, d₅⟩
        (.ok (Utilization.Report.parse answers.report.text)) later ⟨w, d⟩ :=
      ⟨_, p.analyze_ends_iff.2 ⟨_, analyze, rfl, rfl⟩⟩
    refine ⟨d₆, Step.ends_bind_ok_iff.2 ⟨answers.elapsed, _, _, measured, ?_⟩⟩
    exact Step.ends_bind_ok_iff.2 ⟨_, _, _, analyzed, rfl⟩

/-- Where all calls succeed, and there is a score, all stages end well. -/
theorem ends_of_called {answers : Answers} {w : σ} {score : Score}
    (called : p.Called program now a.world answers later w)
    (tolerated : answers.build.succeeded = false → p.settings.build.onFailure = .continue)
    (value : Score.of answers.elapsed.seconds answers.report.text
      p.settings.scoring.resourceKey = .ok score) :
    ∃ d, (p.stages program).run.Ends now a (.ok score) later ⟨w, d⟩ := by
  obtain ⟨d, analyzed⟩ := p.analyzed_of_called called tolerated
  rw [← first_all]
  exact ⟨_, Step.ends_bind_ok_iff.2
    ⟨_, _, _, analyzed, p.score_ends_iff.2 ⟨value, rfl, rfl⟩⟩⟩

/-- A completed run is made of the answers that the collaborators have given. -/
structure Completes (answers : Answers) (run : CompletedRun) : Prop where
  /-- All stages, each once and in order. -/
  log : run.stages.map (fun o => (o.stage, o.status)) =
    Stage.all.map fun s => (s, run.statusOf s)
  tolerated : run.build.exitCode ≠ some 0 → p.settings.build.onFailure = .continue
  build : run.build = answers.build
  artifact : run.artifact = answers.artifact
  flash : run.flash = answers.flash
  elapsed : run.elapsed = answers.elapsed
  utilization : run.utilization = Utilization.Report.parse answers.report.text
  score : Score.of run.elapsed.seconds answers.report.text p.settings.scoring.resourceKey =
    .ok run.score
  /-- The score and the run's own utilization agree on what is reported. -/
  defaulted : Utilization.isIdentifier p.settings.scoring.resourceKey.toList = true →
    (run.score.defaulted = true ↔
      run.utilization.percentage? p.settings.scoring.resourceKey = none)
  share : Utilization.isIdentifier p.settings.scoring.resourceKey.toList = true →
    ∀ percent, run.utilization.percentage? p.settings.scoring.resourceKey = some percent →
      run.score.utilizationPercent = max percent 1

/-- Where all stages end well, the run is completed, with what they have left in the draft. -/
theorem conclude_ends (id : RunId) {world : σ} {score : Score} (time : Timestamp)
    (h : (p.stages program).run.Ends now (p.outset id program now world) (.ok score) later b) :
    ∃ answers run, p.conclude b.draft time (some (.ok score)) = .ok run ∧
      p.Called program now world answers later b.world ∧ p.Completes answers run ∧
      run.stages.map StageOutcome.entry = answers.entries run.score ∧ run.program = program := by
  obtain ⟨answers, called, tolerated, value, log, draft, entries⟩ := p.stages_ends h
  have succeeded : answers.build.succeeded = true ↔ answers.build.exitCode = some 0 := beq_iff_eq
  obtain ⟨defaulted, share⟩ := Score.share_of value
  have agree (identifier : Utilization.isIdentifier p.settings.scoring.resourceKey.toList = true) :
      (Utilization.Report.parse answers.report.text).percentage? p.settings.scoring.resourceKey =
        Utilization.percentage? answers.report.text p.settings.scoring.resourceKey := by
    rw [Utilization.percentage?_parse_eq_find?, Utilization.percentage?_eq_find? identifier]
  have statuses : log.map (fun o => (o.stage, o.status)) =
      (answers.entries score).map fun e => (e.1, e.2.1) := by
    rw [← entries, List.map_map]
    rfl
  rw [draft]
  refine ⟨answers, _, rfl, called, ⟨?_, ?_, rfl, rfl, rfl, rfl, rfl, value, ?_, ?_⟩,
    entries, rfl⟩
  · simp only [Answers.entries, succeeded] at statuses
    exact statuses
  · intro failed
    exact tolerated (Bool.eq_false_iff.2 (mt succeeded.1 failed))
  · intro identifier
    rw [agree identifier]
    exact defaulted
  · intro identifier
    rw [agree identifier]
    exact share

/-- A run ends when its stages do, or when the limit cuts them. -/
theorem ends_run_iff {id : RunId} {world w : σ} {r : Except RunFailure CompletedRun} :
    (p.run id program).Ends now world r later w ↔
      ∃ b result, (((p.stages program).run now (p.outset id program now world)).within
          p.settings.runLimit).finish? now = some (b, result, later) ∧
        w = b.world ∧ r = p.conclude b.draft (p.epoch.later later) result := by
  unfold Work.Ends run outset
  rw [attempt_apply, Activity.finish?_embed, Activity.finish?_andThen]
  simp only [Option.map_eq_some_iff, Option.bind_eq_some_iff]
  constructor
  · rintro ⟨_, ⟨⟨b, result, time⟩, cut, last⟩, same⟩
    cases last
    cases same
    exact ⟨b, result, cut, rfl, rfl⟩
  · rintro ⟨b, result, cut, rfl, rfl⟩
    exact ⟨_, ⟨_, cut, rfl⟩, rfl⟩

/-- A run ends, by its limit at the latest, unless it spins. -/
theorem run_ends_or_spins (id : RunId) (program : Program) (now : Duration) (world : σ) :
    (∃ r later w, (p.run id program).Ends now world r later w) ∨
      ∃ w, (p.run id program now world).spin? = some w := by
  obtain ⟨b, r, t, cut⟩ | ⟨b, spins⟩ := Activity.within_ends_or_spins now p.settings.runLimit
    ((p.stages program).run now (p.outset id program now world))
  · exact .inl ⟨_, _, _, p.ends_run_iff.2 ⟨b, r, cut, rfl, rfl⟩⟩
  · refine .inr ⟨b.world, ?_⟩
    rw [run_apply, Activity.spin?_embed, first_all, Activity.spin?_andThen_of_some spins]
    rfl

variable {p} in
/-- Every run ends where the collaborators yield, by its limit at the latest. -/
theorem exists_ends_run (yields : p.parts.Yields) (id : RunId) (program : Program)
    (now : Duration) (world : σ) : ∃ r later w, (p.run id program).Ends now world r later w := by
  obtain ends | ⟨w, spins⟩ := p.run_ends_or_spins id program now world
  · exact ends
  · cases (run_yields yields id program now world).symm.trans spins

/-- A run whose stages all end well within its limit is completed. -/
theorem run_ends_of_stages (id : RunId) {world : σ} {score : Score}
    (h : (p.stages program).run.Ends now (p.outset id program now world) (.ok score) later b)
    (le : later ≤ now + p.settings.runLimit) :
    ∃ run, (p.run id program).Ends now world (.ok run) later b.world := by
  obtain ⟨_, run, done, -⟩ := p.conclude_ends id (p.epoch.later later) h
  exact ⟨run, p.ends_run_iff.2 ⟨b, _, Activity.finish?_within h le, rfl, done.symm⟩⟩

/-- The calls of a run have one outcome. -/
theorem called_unique {answers answers' : Answers} {later' : Duration} {v w w' : σ}
    (called : p.Called program now v answers later w)
    (called' : p.Called program now v answers' later' w') :
    answers = answers' ∧ later = later' ∧ w = w' := by
  have one {α : Type} {t : Work σ α} {now later later' : Duration} {v w w' : σ} {r r' : α}
      (ends : t.Ends now v r later w) (ends' : t.Ends now v r' later' w') :
      r = r' ∧ later = later' ∧ w = w' := by
    cases ends.symm.trans ends'
    exact ⟨rfl, rfl, rfl⟩
  cases called with
  | intro patch build synthesize flash opens await analyze =>
    cases called' with
    | intro patch' build' synthesize' flash' opens' await' analyze' =>
      cases answers
      cases answers'
      cases patch.symm.trans patch'
      obtain ⟨⟨⟩, rfl, rfl⟩ := one build build'
      obtain ⟨⟨⟩, rfl, rfl⟩ := one synthesize synthesize'
      obtain ⟨⟨⟩, rfl, rfl⟩ := one flash flash'
      obtain ⟨-, rfl, rfl⟩ := one opens opens'
      obtain ⟨⟨⟩, rfl, rfl⟩ := one await await'
      obtain ⟨⟨⟩, rfl, rfl⟩ := one analyze analyze'
      exact ⟨rfl, rfl, rfl⟩

/-- A completed run, in terms of its calls. -/
theorem answers_of_completed {id : RunId} {world w : σ} {run : CompletedRun}
    (ends : (p.run id program).Ends now world (.ok run) later w) :
    ∃ answers, p.Called program now world answers later w ∧ p.Completes answers run ∧
      run.stages.map StageOutcome.entry = answers.entries run.score ∧ run.program = program ∧
      later ≤ now + p.settings.runLimit := by
  obtain ⟨b, result, cut, rfl, same⟩ := p.ends_run_iff.1 ends
  match result with
  | none => cases same
  | some (.error e) => cases same
  | some (.ok score) =>
    have ended :
        (p.stages program).run.Ends now (p.outset id program now world) (.ok score) later b :=
      Activity.finish?_of_within cut
    obtain ⟨answers, run', done, called, completes, entries, named⟩ :=
      p.conclude_ends id (p.epoch.later later) ended
    cases same.trans done
    exact ⟨answers, called, completes, entries, named, Activity.le_of_finish?_within cut⟩

/-- Calls that succeed in time make a completed run. -/
theorem completed_of_called (id : RunId) {answers : Answers} {world w : σ} {score : Score}
    (called : p.Called program now world answers later w)
    (tolerated : answers.build.succeeded = false → p.settings.build.onFailure = .continue)
    (value : Score.of answers.elapsed.seconds answers.report.text
      p.settings.scoring.resourceKey = .ok score)
    (le : later ≤ now + p.settings.runLimit) :
    ∃ run, (p.run id program).Ends now world (.ok run) later w ∧ p.Completes answers run ∧
      run.stages.map StageOutcome.entry = answers.entries run.score ∧ run.program = program := by
  obtain ⟨d, stages⟩ :=
    p.ends_of_called (a := p.outset id program now world) called tolerated value
  obtain ⟨run, ends⟩ := p.run_ends_of_stages id stages le
  obtain ⟨answers', called', completes, entries, named, -⟩ := p.answers_of_completed ends
  obtain ⟨rfl, -, -⟩ := p.called_unique called called'
  exact ⟨run, ends, completes, entries, named⟩

/-- **What a run comes to.** A completed run has called all collaborators in order, and holds what
they have answered and the score of just that; its log has one entry for each stage, of which only
a build that is tolerated and a score by default are warnings. A run that fails does so for a
reason of its own, and never for want of an output. -/
theorem run_completes {id : RunId} {t : Duration} {world w : σ}
    {r : Except RunFailure CompletedRun} (ends : (p.run id program).Ends now world r t w) :
    (∀ run, r = .ok run →
      ∃ answers, p.Called program now world answers t w ∧ p.Completes answers run) ∧
      ∀ f stage, r = .error f → f.reason ≠ .missingOutput stage := by
  obtain ⟨b, result, cut, rfl, rfl⟩ := p.ends_run_iff.1 ends
  match result with
  | none =>
    refine ⟨fun run same => (nomatch same), ?_⟩
    rintro f stage ⟨⟩
    exact nofun
  | some (.error e) =>
    have ended : (p.stages program).run.Ends now (p.outset id program now world) (.error e) t b :=
      Activity.finish?_of_within cut
    refine ⟨fun run same => (nomatch same), ?_⟩
    rintro f stage ⟨⟩
    exact p.stages_failsWith _ _ _ _ _ ended stage
  | some (.ok score) =>
    have ended : (p.stages program).run.Ends now (p.outset id program now world) (.ok score) t b :=
      Activity.finish?_of_within cut
    obtain ⟨answers, run, done, called, completes, -⟩ := p.conclude_ends id (p.epoch.later t) ended
    rw [done]
    refine ⟨?_, fun f stage same => nomatch same⟩
    rintro _ ⟨⟩
    exact ⟨answers, called, completes⟩

/-- A device that has one byte to send, from some time after the start on. -/
def lateByte (byte : UInt8) : Channel (FileSystem × Bool) where
  sample now s :=
    if s.2 && 0 < now then ((s.1, false), .ok (some byte)) else (s, .ok none)

/-- A pipeline that tolerates a failed build, and of which all else succeeds. -/
def settled : Pipeline (FileSystem × Bool) where
  settings := stalled.settings
  parts := {
    files := Prod.fst
    setFiles := fun files s => (files, s.2)
    build := fun _ _ _ => Work.pure (.ok ⟨none, "", "", 0⟩)
    gateway := {
      synthesize := fun _ top part => Work.pure (.ok ⟨⟨"bit"⟩, ⟨"log"⟩, top, part, "", ⟨0, 0⟩⟩)
      flash := fun bitstream device => Work.pure (.ok ⟨bitstream, device.getD "", ""⟩)
      analyze := fun _ => Work.pure (.ok (.report .utilization "LUT: 12%"))
      verify := fun _ _ => Work.pure (.error (.artifactNotFound ⟨""⟩)) }
    openChannel := Work.pure (.ok ())
    channel := lateByte stalled.settings.monitor.sentinel }
  epoch := ⟨0, 0⟩

theorem patchSource_settled :
    settled.patchSource haltProgram (romFiles, true) = ((romFiles, true), .ok ⟨false, 1, 0⟩) :=
  patchSource_halt rfl rfl readText_romFiles

theorem drain_lateByte (byte : UInt8) (now : Duration) (files : FileSystem) :
    (lateByte byte).drain byte now (files, true) =
      some (if 0 < now then ((files, false), .ok true) else ((files, true), .ok false)) := by
  rw [Channel.drain_eq_some_iff]
  by_cases late : 0 < now
  · rw [if_pos late]
    have read : (lateByte byte).sample now (files, true) = ((files, false), .ok (some byte)) := by
      simp [lateByte, late]
    exact .seen read
  · rw [if_neg late]
    have read : (lateByte byte).sample now (files, true) = ((files, true), .ok none) := by
      simp [lateByte, late]
    exact .nothing read

theorem await_settled :
    ((Monitor.every settled.settings.monitor.pollInterval).await settled.parts.channel
      settled.settings.monitor.sentinel settled.settings.monitor.timeout).Ends 0 (romFiles, true)
        (.ok (Duration.ofMillis 10)) (Duration.ofMillis 10) (romFiles, false) := by
  have next : (Monitor.every settled.settings.monitor.pollInterval).next
      settled.settings.monitor.timeout 0 = Duration.ofMillis 10 := by decide
  have silent : settled.parts.channel.drain settled.settings.monitor.sentinel 0 (romFiles, true) =
      some ((romFiles, true), .ok false) :=
    drain_lateByte _ 0 romFiles
  have sent : settled.parts.channel.drain settled.settings.monitor.sentinel
      (0 + (Monitor.every settled.settings.monitor.pollInterval).next
        settled.settings.monitor.timeout 0) (romFiles, true) =
          some ((romFiles, false), .ok true) := by
    rw [next]
    exact drain_lateByte _ (Duration.ofMillis 10) romFiles
  have ends := Monitor.finish?_await_of_second _ _ _ (by decide) silent sent
  rw [next] at ends
  exact ends

/-- What the collaborators answer. -/
def settledAnswers : Answers where
  patch := ⟨false, 1, 0⟩
  build := ⟨none, "", "", 0⟩
  artifact := ⟨⟨"bit"⟩, ⟨"log"⟩, settled.settings.synthesis.topModule,
    settled.settings.synthesis.partNumber, "", ⟨0, 0⟩⟩
  flash := ⟨⟨"bit"⟩, settled.settings.synthesis.deviceId.getD "", ""⟩
  elapsed := Duration.ofMillis 10
  report := .report .utilization "LUT: 12%"

theorem called_settled : settled.Called haltProgram 0 (romFiles, true) settledAnswers
    (Duration.ofMillis 10) (romFiles, false) :=
  .intro patchSource_settled rfl rfl rfl rfl await_settled rfl

/-- A run that completes, with a build that failed and was tolerated. -/
theorem settled_run_completes :
    ∃ run t w answers,
      (settled.run ⟨"r"⟩ haltProgram).Ends 0 (romFiles, true) (.ok run) t w ∧
        settled.Called haltProgram 0 (romFiles, true) answers t w ∧
        settled.Completes answers run := by
  obtain ⟨score, value⟩ : ∃ score, Score.of settledAnswers.elapsed.seconds
      settledAnswers.report.text settled.settings.scoring.resourceKey = .ok score := by
    have positive : settledAnswers.elapsed.seconds.isPositiveFinite = true := by decide +kernel
    unfold Score.of
    rw [if_pos positive]
    exact ⟨_, rfl⟩
  obtain ⟨d, stages⟩ := settled.ends_of_called (a := settled.outset ⟨"r"⟩ haltProgram 0
    (romFiles, true)) called_settled (fun _ => rfl) value
  obtain ⟨run, ends⟩ := settled.run_ends_of_stages ⟨"r"⟩ stages (by decide)
  obtain ⟨completes, -⟩ := settled.run_completes ends
  obtain ⟨answers, called, holds⟩ := completes run rfl
  exact ⟨run, _, _, answers, ends, called, holds⟩

end Pipeline

end CoreTrial
