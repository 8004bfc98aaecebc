import CoreTrial.Proofs.Patch.Repetition
import CoreTrial.Proofs.Pipeline.Steady

/-!
# Running a program again

A run leaves its program in the source, and the outputs and the memory of its gateway. The next run
of the same program finds all of that. Over a mock gateway it finds the program in the source,
writes all outputs over those of the run before, and comes to the same measurement.
-/

set_option autoImplicit false

namespace CoreTrial

/-- A run has measured the same as another one, and has found its program in the source. -/
structure CompletedRun.Repeats (run' run : CompletedRun) : Prop where
  program : run'.program = run.program
  build : run'.build = run.build
  artifact : run'.artifact = { run.artifact with createdAt := run'.artifact.createdAt }
  flash : run'.flash = run.flash
  elapsed : run'.elapsed = run.elapsed
  utilization : run'.utilization = run.utilization
  score : run'.score = run.score
  log : run'.stages.map StageOutcome.entry = run.stages.map fun o =>
    (o.stage, o.status, if o.stage = .inject then "program already present" else o.detail)

/-- The answers in a run that finds its program in the source: nothing is patched, and the artifact
is made at another time. -/
def Answers.again (answers : Answers) (entries : Nat) (createdAt : Timestamp) : Answers :=
  { answers with
    patch := ⟨false, entries, 0⟩
    artifact := { answers.artifact with createdAt } }

namespace Pipeline

variable {σ : Type} {p : Pipeline σ} {g : MockGateway} {get : σ → Workbench}
  {put : Workbench → σ → σ} {program : Program} {start v w : σ} {now later : Duration}
  {answers answers' : Answers} {elapsed : Duration} {report : AnalysisReport}

/-- What a run has left is still there: the source is as it was, and all paths of the gateway lead
where they led. -/
structure Standing (p : Pipeline σ) (g : MockGateway) (base files : FileSystem) : Prop where
  paths : ∀ q ∈ p.settings.patchTarget.path :: g.paths p.settings.synthesis.topModule,
    base.Stays files q
  source : files.readText p.settings.patchTarget.path = base.readText p.settings.patchTarget.path

theorem Standing.refl (p : Pipeline σ) (g : MockGateway) (base : FileSystem) :
    p.Standing g base base where
  paths q _ := .refl base q
  source := rfl

theorem Standing.trans {base files files' : FileSystem} (h : p.Standing g base files)
    (h' : p.Standing g files files') : p.Standing g base files' where
  paths q mem := (h.paths q mem).trans (h'.paths q mem)
  source := h'.source.trans h.source

theorem Spares.standing (spares : p.Spares g get program start) {r : Except BuildError BuildResult}
    (visited : p.Visits program start v) (ends : p.buildWork.Ends now v r later w) :
    p.Standing g (get v).files (get w).files where
  paths := spares.paths visited ends
  source := spares.source visited ends

/-- The source is none of the files that the gateway writes. -/
def Apart (p : Pipeline σ) (g : MockGateway) (files : FileSystem) : Prop :=
  ∀ o ∈ g.outputs p.settings.synthesis.topModule,
    files.place? o.1 ≠ files.place? p.settings.patchTarget.path

theorem Apart.of_stays {base files : FileSystem} (apart : p.Apart g base)
    (stays : ∀ q ∈ p.settings.patchTarget.path :: g.paths p.settings.synthesis.topModule,
      base.Stays files q)
    (outputs : ∀ o ∈ g.outputs p.settings.synthesis.topModule, ∃ q, base.place? o.1 = some q)
    (source : ∃ q, base.place? p.settings.patchTarget.path = some q) : p.Apart g files := by
  intro o mem
  obtain ⟨q, output⟩ := outputs o mem
  obtain ⟨q', source⟩ := source
  have path : o.1 ∈ p.settings.patchTarget.path :: g.paths p.settings.synthesis.topModule :=
    List.mem_cons_of_mem _ (List.mem_cons_of_mem _ (List.mem_map_of_mem mem))
  have other := apart o mem
  rw [output, source] at other
  rwa [(stays _ path).place? output, (stays _ List.mem_cons_self).place? source]

/-- Where all that a synthesis has left is still there, it is there after the same synthesis, too,
and the same is reported. -/
theorem Standing.synthesize {bench bench₂ : Workbench} {createdAt : Timestamp}
    {artifact : SynthesisArtifact} {before : Workbench} {text : String}
    (standing : p.Standing g bench.files bench₂.files)
    (answered : g.synthesize createdAt p.settings.hdlPaths p.settings.synthesis.topModule
      p.settings.synthesis.partNumber before = (bench, .ok artifact))
    (apart : p.Apart g bench.files)
    (read : bench.files.readText p.settings.patchTarget.path = .ok text) (later : Timestamp) :
    ∃ bench', g.synthesize later p.settings.hdlPaths p.settings.synthesis.topModule
        p.settings.synthesis.partNumber bench₂ =
          (bench', .ok { artifact with createdAt := later }) ∧
      p.Standing g bench.files bench'.files ∧
      g.utilizationText bench'.files = g.utilizationText bench.files := by
  obtain ⟨bench', answered', keeps, same⟩ := MockGateway.synthesize_again answered
    (fun q mem => standing.paths q (List.mem_cons_of_mem _ mem)) later
  have stays (q : Path)
      (mem : q ∈ p.settings.patchTarget.path :: g.paths p.settings.synthesis.topModule) :
      bench.files.Stays bench'.files q :=
    (standing.paths q mem).trans (keeps.stays q)
  have apart' : p.Apart g bench'.files :=
    apart.of_stays stays (fun o mem => MockGateway.place?_of_synthesize answered mem)
      (FileSystem.place?_of_readText read)
  have read' : bench'.files.readText p.settings.patchTarget.path = .ok text :=
    MockGateway.readText_of_synthesize answered' (standing.source.trans read) apart'
  exact ⟨bench', answered', ⟨stays, read'.trans read.symm⟩,
    MockGateway.utilizationText_congr _ same⟩

/-- The calls of a run up to the flash, after which the device is programmed. -/
inductive Programmed (p : Pipeline σ) (program : Program) (now : Duration) (v : σ)
    (answers : Answers) : Duration → σ → Prop
  | intro {t₂ t₃ t₄ : Duration} {w₁ w₂ w₃ w₄ : σ}
      (patch : p.patchSource program v = (w₁, .ok answers.patch))
      (build : p.buildWork.Ends now w₁ (.ok answers.build) t₂ w₂)
      (synthesize : p.synthesizeWork.Ends t₂ w₂ (.ok answers.artifact) t₃ w₃)
      (flash : (p.flashWork answers.artifact.bitstream).Ends t₃ w₃ (.ok answers.flash) t₄ w₄) :
      Programmed p program now v answers t₄ w₄

/-- The calls of a run from there on. -/
inductive Measured (p : Pipeline σ) (now : Duration) (v : σ) (elapsed : Duration)
    (report : AnalysisReport) : Duration → σ → Prop
  | intro {t₅ t₆ t₇ : Duration} {w₅ w₆ w₇ : σ}
      (opens : p.parts.openChannel.Ends now v (.ok ()) t₅ w₅)
      (await : p.awaitWork.Ends t₅ w₅ (.ok elapsed) t₆ w₆)
      (analyze : p.analyzeWork.Ends t₆ w₆ (.ok report) t₇ w₇) :
      Measured p now v elapsed report t₇ w₇

theorem called_iff :
    p.Called program now v answers later w ↔
      ∃ t u, p.Programmed program now v answers t u ∧
        p.Measured t u answers.elapsed answers.report later w := by
  constructor
  · rintro ⟨patch, build, synthesize, flash, opens, await, analyze⟩
    exact ⟨_, _, .intro patch build synthesize flash, .intro opens await analyze⟩
  · rintro ⟨t, u, ⟨patch, build, synthesize, flash⟩, ⟨opens, await, analyze⟩⟩
    exact .intro patch build synthesize flash opens await analyze

theorem Visits.patch {r : Except PatchError PatchOutcome} (visited : p.Visits program start v)
    (patched : p.patchSource program v = (w, r)) : p.Visits program start w :=
  .call visited .patch (Work.ends_act_iff.2 ⟨patched, rfl⟩ : Work.Ends _ 0 _ _ 0 _)

theorem Programmed.visits (visited : p.Visits program start v)
    (h : p.Programmed program now v answers later w) : p.Visits program start w := by
  cases h with
  | intro patch build synthesize flash =>
    have visited := (visited.patch patch).call .build build
    exact (visited.call .synthesize synthesize).call (.flash _) flash

theorem Measured.visits (visited : p.Visits program start v)
    (h : p.Measured now v elapsed report later w) : p.Visits program start w := by
  cases h with
  | intro opens await analyze =>
    exact ((visited.call .opens opens).call .await await).call .analyze analyze

theorem Called.visits (visited : p.Visits program start v)
    (called : p.Called program now v answers later w) : p.Visits program start w := by
  obtain ⟨t, u, programmed, measured⟩ := called_iff.1 called
  exact measured.visits (programmed.visits visited)

theorem Programmed.le (h : p.Programmed program now v answers later w) : now ≤ later := by
  cases h with
  | intro patch build synthesize flash =>
    have first := Activity.le_of_finish? build
    have second := Activity.le_of_finish? synthesize
    exact Nat.le_trans first (Nat.le_trans second (Activity.le_of_finish? flash))

theorem Measured.le (h : p.Measured now v elapsed report later w) : now ≤ later := by
  cases h with
  | intro opens await analyze =>
    have first := Activity.le_of_finish? opens
    have second := Activity.le_of_finish? await
    exact Nat.le_trans first (Nat.le_trans second (Activity.le_of_finish? analyze))

section Again

variable (mocked : p.OverMock g get put) (spares : p.Spares g get program start)

include mocked spares

/-- To measure leaves the workbench as it is. -/
theorem Measured.workbench (h : p.Measured now v elapsed report later w) : get w = get v := by
  cases h with
  | intro opens await analyze =>
    obtain ⟨-, rfl, rfl⟩ := mocked.analyze_ends_iff.1 analyze
    rw [mocked.get_put]
    exact (spares.await await).trans (spares.opens opens)

/-- What is measured is measured again, as long as the same is reported. -/
theorem Measured.again (steady : p.Steady program start) (visited : p.Visits program start v)
    (h : p.Measured now v elapsed report later w) {v' : σ}
    (visited' : p.Visits program start v') (now' : Duration)
    (same : g.utilizationText (get v').files = g.utilizationText (get v).files) :
    ∃ w', p.Measured now' v' elapsed report (now' + (later - now)) w' := by
  cases h with
  | @intro t₅ t₆ _ w₅ w₆ _ opens await analyze =>
    obtain ⟨c, rfl⟩ := Nat.exists_eq_add_of_le (Activity.le_of_finish? opens)
    obtain ⟨d, rfl⟩ := Nat.exists_eq_add_of_le (Activity.le_of_finish? await)
    obtain ⟨reported, rfl, rfl⟩ := mocked.analyze_ends_iff.1 analyze
    obtain ⟨v₅, R, opens', related, alike⟩ := steady.channel visited opens now' v' visited'
    obtain ⟨v₆, await', -⟩ :=
      (Monitor.watch_alike _ alike _ _ 0 v₅ related).finish await (now' + c)
    have analyze' : p.analyzeWork.Ends (now' + c + d) v₆ (.ok report) (now' + c + d)
        (put (get v₆) v₆) := by
      refine mocked.analyze_ends_iff.2 ⟨?_, rfl, rfl⟩
      rw [reported, spares.await await, spares.opens opens, spares.await await',
        spares.opens opens', same]
    have span : now' + (now + c + d - now) = now' + c + d := by lia
    rw [span]
    exact ⟨_, .intro opens' await' analyze'⟩

/-- A device that has been programmed is programmed again, with what is made of the same source. -/
theorem Programmed.again (steady : p.Steady program start)
    (visited : p.Visits program start v) (h : p.Programmed program now v answers later w)
    (apart : p.Apart g (get w).files) {v' : σ} (visited' : p.Visits program start v')
    (standing : p.Standing g (get w).files (get v').files) (now' : Duration) :
    ∃ entries createdAt w', p.Programmed program now' v' (answers.again entries createdAt)
        (now' + (later - now)) w' ∧
      p.Standing g (get w).files (get w').files ∧
      g.utilizationText (get w').files = g.utilizationText (get w).files := by
  cases h with
  | @intro _ _ _ w₁ w₂ _ _ patch build synthesize flash =>
    obtain ⟨b, rfl⟩ := Nat.exists_eq_add_of_le (Activity.le_of_finish? build)
    obtain ⟨synthesized, confirmed, rfl⟩ := mocked.synthesize_flash synthesize flash
    -- The source is read as the patch has left it, after the synthesis as well.
    have patched := mocked.patchSource_eq_ok patch
    obtain ⟨text, read₁⟩ := Patch.exists_readText_of_apply patched
    have read₂ := (spares.source (visited.patch patch) build).trans read₁
    have read₃ := MockGateway.readText_of_synthesize synthesized read₂ apart
    have read' := standing.source.trans read₃
    obtain ⟨v₁, patch', same₁⟩ :=
      mocked.exists_patchSource (Patch.apply_of_apply patched (read'.trans read₁.symm))
    have visited₁ := visited'.patch patch'
    obtain ⟨v₂, build'⟩ := steady.build (visited.patch patch) build now' v₁ visited₁
    have spared := spares.standing visited₁ build'
    rw [same₁] at spared
    obtain ⟨bench, synthesized', standing', same⟩ :=
      (standing.trans spared).synthesize synthesized apart read₃ (p.epoch.later (now' + b))
    obtain ⟨v₃, v₄, synthesize', flash', rfl⟩ := mocked.exists_synthesize_flash synthesized'
    have span : now' + (now + b - now) = now' + b := by lia
    rw [span]
    rw [← confirmed] at flash'
    exact ⟨_, _, v₄, .intro patch' build' synthesize' flash', standing', same⟩

/-- A run that has called all its collaborators with success does so again. -/
theorem called_again (steady : p.Steady program start) (visited : p.Visits program start v)
    (called : p.Called program now v answers later w) (apart : p.Apart g (get w).files) {v' : σ}
    (visited' : p.Visits program start v') (standing : p.Standing g (get w).files (get v').files)
    (now' : Duration) :
    ∃ entries createdAt w', p.Called program now' v' (answers.again entries createdAt)
        (now' + (later - now)) w' ∧
      p.Visits program start w' ∧ p.Standing g (get w).files (get w').files := by
  obtain ⟨t, u, programmed, measured⟩ := called_iff.1 called
  rw [measured.workbench mocked spares] at apart standing ⊢
  obtain ⟨entries, createdAt, u', programmed', standing', same⟩ :=
    programmed.again mocked spares steady visited apart visited' standing now'
  have visited₁ := programmed'.visits visited'
  obtain ⟨w', measured'⟩ :=
    measured.again mocked spares steady (programmed.visits visited) visited₁ (now' + (t - now)) same
  have span : now' + (t - now) + (later - t) = now' + (later - now) := by
    have first := programmed.le
    have second := measured.le
    lia
  rw [span] at measured'
  refine ⟨entries, createdAt, w', called_iff.2 ⟨_, u', programmed', measured'⟩,
    measured'.visits visited₁, ?_⟩
  rwa [measured'.workbench mocked spares]

/-- What is reported in a run is what the gateway's files hold at its end, which is the report that
was given beforehand where that has a file of its own. -/
theorem report_of_called (called : p.Called program now v answers later w) :
    answers.report.text = g.utilizationText (get w).files ∧
      (g.OwnReport (get w).files → answers.report.text = g.settings.utilizationReport) := by
  obtain ⟨t, u, programmed, measured⟩ := called_iff.1 called
  have kept := measured.workbench mocked spares
  have reported : answers.report.text = g.utilizationText (get w).files := by
    cases measured with
    | intro opens await analyze =>
      obtain ⟨same, rfl, rfl⟩ := mocked.analyze_ends_iff.1 analyze
      rw [mocked.get_put, Except.ok.inj same]
      rfl
  refine ⟨reported, fun own => ?_⟩
  rw [reported]
  rw [kept] at own ⊢
  cases programmed with
  | intro patch build synthesize flash =>
    exact MockGateway.utilizationText_of_own (mocked.synthesize_flash synthesize flash).1 own

end Again

/-- The worlds that are left by any number of runs of a program, each started in the world that the
one before has left. -/
inductive Reruns (p : Pipeline σ) (program : Program) (w : σ) : σ → Prop
  | none : Reruns p program w w
  | again {id : RunId} {now later : Duration} {v v' : σ} {r : Except RunFailure CompletedRun}
      (before : Reruns p program w v) (ends : (p.run id program).Ends now v r later v') :
      Reruns p program w v'

/-- A run is scored by its time and its report, which is the one that was given beforehand where
that has a file of its own. -/
structure ScoredByReport (p : Pipeline σ) (g : MockGateway) (files : FileSystem)
    (run : CompletedRun) : Prop where
  score : Score.of run.elapsed.seconds run.utilization.raw p.settings.scoring.resourceKey =
    .ok run.score
  report : g.OwnReport files → run.utilization.raw = g.settings.utilizationReport

theorem ScoredByReport.of_repeats {files : FileSystem} {run run' : CompletedRun}
    (h : p.ScoredByReport g files run) (repeats : run'.Repeats run) :
    p.ScoredByReport g files run' where
  score := by
    rw [repeats.elapsed, repeats.utilization, repeats.score]
    exact h.score
  report own := by
    rw [repeats.utilization]
    exact h.report own

/-- Runs repeat each other when their calls differ only in the patch and in when the artifact was
made. -/
theorem repeats_of_completes {run run' : CompletedRun} {entries : Nat} {createdAt : Timestamp}
    (completes : p.Completes answers run)
    (completes' : p.Completes (answers.again entries createdAt) run')
    (log : run.stages.map StageOutcome.entry = answers.entries run.score)
    (log' : run'.stages.map StageOutcome.entry =
      (answers.again entries createdAt).entries run'.score)
    (program : run'.program = run.program) : run'.Repeats run := by
  have elapsed : run'.elapsed = run.elapsed := completes'.elapsed.trans completes.elapsed.symm
  have score : run'.score = run.score := by
    have value := completes'.score
    rw [elapsed] at value
    exact Except.ok.inj (value.symm.trans completes.score)
  refine ⟨program, completes'.build.trans completes.build.symm, ?_,
    completes'.flash.trans completes.flash.symm, elapsed,
    completes'.utilization.trans completes.utilization.symm, score, ?_⟩
  · rw [completes'.artifact, completes.artifact]
    rfl
  · have rewritten : (run.stages.map fun o => (o.stage, o.status,
        if o.stage = .inject then "program already present" else o.detail)) =
        (run.stages.map StageOutcome.entry).map fun e =>
          (e.1, e.2.1, if e.1 = .inject then "program already present" else e.2.2) := by
      rw [List.map_map]
      rfl
    rw [rewritten, log, log', score]
    rfl

/-- **A program that is run again measures the same.** Over a mock gateway, with a build and a
channel that behave the same on each run, and with a build that spares the source and the outputs of
the gateway: once a run has completed, and the source is none of the files that the gateway has
written, all further runs of the program complete, in the same time and with the same measurement,
and find the program in the source. Each is scored by its time and its report, which is the one that
was given beforehand unless that is in no file or another report is written over it. -/
theorem reruns_measure_alike (mocked : p.OverMock g get put)
    (steady : p.Steady program start) (spares : p.Spares g get program start) {id : RunId}
    {run : CompletedRun} (first : (p.run id program).Ends now start (.ok run) later w)
    (apart : p.Apart g (get w).files) :
    p.ScoredByReport g (get w).files run ∧
      ∀ v, p.Reruns program w v → ∀ id' now', ∃ run' v',
        (p.run id' program).Ends now' v (.ok run') (now' + (later - now)) v' ∧
          run'.Repeats run ∧ p.ScoredByReport g (get w).files run' := by
  obtain ⟨answers, called, completes, log, named, le⟩ := p.answers_of_completed first
  have scored : p.ScoredByReport g (get w).files run := by
    obtain ⟨-, own⟩ := report_of_called mocked spares called
    have raw : run.utilization.raw = answers.report.text := by
      rw [completes.utilization]
      rfl
    refine ⟨?_, fun h => raw.trans (own h)⟩
    rw [raw]
    exact completes.score
  -- One more run completes wherever all that the first one has left is still there.
  have once {v : σ} (visited : p.Visits program start v)
      (standing : p.Standing g (get w).files (get v).files) (id' : RunId) (now' : Duration) :
      ∃ run' v', (p.run id' program).Ends now' v (.ok run') (now' + (later - now)) v' ∧
        run'.Repeats run ∧ p.Visits program start v' ∧
          p.Standing g (get w).files (get v').files := by
    obtain ⟨entries, createdAt, v', called', visited', standing'⟩ :=
      called_again mocked spares steady .start called apart visited standing now'
    have tolerated (failed : answers.build.succeeded = false) :
        p.settings.build.onFailure = .continue := by
      refine completes.tolerated fun code => ?_
      rw [completes.build] at code
      rw [BuildResult.succeeded, code] at failed
      cases failed
    have value := completes.score
    rw [completes.elapsed] at value
    have inTime : now' + (later - now) ≤ now' + p.settings.runLimit := by lia
    obtain ⟨run', ends, completes', log', named'⟩ :=
      p.completed_of_called id' called' tolerated value inTime
    exact ⟨run', v', ends,
      repeats_of_completes completes completes' log log' (named'.trans named.symm),
      visited', standing'⟩
  have left {v : σ} (reruns : p.Reruns program w v) :
      p.Visits program start v ∧ p.Standing g (get w).files (get v).files := by
    induction reruns with
    | none => exact ⟨called.visits .start, .refl p g _⟩
    | @again id' now' later' v v' r before ends ih =>
      obtain ⟨run', u, ends', -, visited, standing⟩ := once ih.1 ih.2 id' now'
      cases ends.symm.trans ends'
      exact ⟨visited, standing⟩
  refine ⟨scored, fun v reruns id' now' => ?_⟩
  obtain ⟨visited, standing⟩ := left reruns
  obtain ⟨run', v', ends, repeats, -⟩ := once visited standing id' now'
  exact ⟨run', v', ends, repeats, scored.of_repeats repeats⟩

/-- A folder with a source and all that a gateway writes. The utilization report is any node. -/
def deskFiles (source : String) (report : Node) : FileSystem where
  nodes := [([], .folder newFolderMode), (["rom"], .file 0 newFileMode source.toUTF8),
    (["Top.bit"], .file 1 newFileMode .empty), (["synthesis.log"], .file 2 newFileMode .empty),
    (["post_route_util.rpt"], report), (["post_route_timing.rpt"], .file 3 newFileMode .empty),
    (["post_route_power.rpt"], .file 4 newFileMode .empty)]
  home := []
  next := 6

/-- A report like all others. -/
def plainReport : Node :=
  .file 5 newFileMode .empty

/-- A gateway that works in the root folder. -/
def deskGateway : MockGateway where
  buildDir := ⟨"/"⟩

/-- A device that sends one byte, some time after it has been started. -/
def ringer (byte : UInt8) : Channel (Workbench × Option Duration) where
  sample now s :=
    match s.2 with
    | none => (s, .ok none)
    | some started => if started < now then ((s.1, none), .ok (some byte)) else (s, .ok none)

/-- A pipeline over that gateway. The files are changed by its build, and when its channel is
opened. -/
def desk (build opens : FileSystem → FileSystem) : Pipeline (Workbench × Option Duration) where
  settings := stalled.settings
  parts := {
    files := fun s => s.1.files
    setFiles := fun files s => ({ s.1 with files }, s.2)
    build := fun _ _ _ => Work.act fun s =>
      (({ s.1 with files := build s.1.files }, s.2), .ok ⟨some 0, "", "", 0⟩)
    gateway := (deskGateway.calls ⟨0, 0⟩).on Prod.fst fun bench s => (bench, s.2)
    openChannel := fun now s => .done ({ s.1 with files := opens s.1.files }, some now) (.ok ())
    channel := ringer stalled.settings.monitor.sentinel }
  epoch := ⟨0, 0⟩

/-- The files before the first run, with no memory and with no program started. -/
def deskStart (report : Node) : Workbench × Option Duration :=
  (⟨deskFiles haltSource report, .empty⟩, none)

section Desk

variable {build opens : FileSystem → FileSystem} {source : String} {report : Node} {old : ByteArray}

theorem mocked_desk (build opens : FileSystem → FileSystem) :
    (desk build opens).OverMock deskGateway Prod.fst fun bench s => (bench, s.2) where
  gateway := rfl
  get_put _ _ := rfl
  files _ := rfl
  setFiles _ _ := rfl

/-- The device sends its byte equally long after each start. -/
theorem ringer_alike (byte : UInt8) (started started' : Duration) :
    Channel.Alike (fun w v => w.2 = some started ∧ v.2 = some started' ∨ w.2 = none ∧ v.2 = none)
      started started' (ringer byte) (ringer byte) := by
  rintro elapsed ⟨bench, _⟩ ⟨bench', _⟩ (⟨⟨⟩, ⟨⟩⟩ | ⟨⟨⟩, ⟨⟩⟩)
  · by_cases late : 0 < elapsed
    · simp [ringer, late]
    · simp [ringer, late]
  · exact ⟨rfl, .inr ⟨rfl, rfl⟩⟩

theorem steady_desk (build opens : FileSystem → FileSystem)
    (start : Workbench × Option Duration) : (desk build opens).Steady haltProgram start where
  build := by
    intro now time w r w' _ ends now' v _
    obtain ⟨same, atOnce⟩ := Work.ends_act_iff.1 ends
    cases same
    exact ⟨_, Work.ends_act_iff.2 ⟨rfl, by lia⟩⟩
  channel := by
    intro now time w w' _ ends now' v _
    simp only [Work.Ends, desk, Activity.finish?, Option.some.injEq, Prod.mk.injEq] at ends
    obtain ⟨rfl, -, atOnce⟩ := ends
    obtain rfl : time = 0 := by lia
    exact ⟨(_, some now'), _, rfl, .inl ⟨rfl, rfl⟩, ringer_alike _ now now'⟩

/-- Where neither of them changes a file, the gateway is spared. -/
theorem spares_desk (start : Workbench × Option Duration) :
    (desk id id).Spares deskGateway Prod.fst haltProgram start where
  paths := by
    intro now w r later w' _ ends q _
    obtain ⟨same, -⟩ := Work.ends_act_iff.1 ends
    cases same
    exact .refl _ _
  source := by
    intro now w r later w' _ ends
    obtain ⟨same, -⟩ := Work.ends_act_iff.1 ends
    cases same
    rfl
  opens := by
    intro now w r later w' ends
    simp only [Work.Ends, desk, Activity.finish?, Option.some.injEq, Prod.mk.injEq] at ends
    obtain ⟨rfl, -⟩ := ends
    rfl
  sample := by
    rintro now ⟨bench, _ | started⟩
    · rfl
    · simp only [desk, ringer]
      split <;> rfl

theorem leads_report (source : String) (writable : report.Written old) :
    (deskFiles source report).node? (deskGateway.reportPath .utilization) =
      .ok (["post_route_util.rpt"], report) := by
  refine FileSystem.node?_of_isName rfl rfl (by decide +kernel) rfl fun target => ?_
  rintro rfl
  cases writable

theorem placed_report (source : String) (writable : report.Written old) (m : Metric) :
    (deskFiles source report).place? (deskGateway.reportPath m) = some [m.reportFile] := by
  refine FileSystem.place?_eq_some_iff.2 ?_
  cases m with
  | utilization => exact ⟨report, leads_report source writable⟩
  | timing => exact ⟨_, FileSystem.node?_file_of_isName rfl rfl (by decide +kernel) rfl⟩
  | power => exact ⟨_, FileSystem.node?_file_of_isName rfl rfl (by decide +kernel) rfl⟩

/-- All outputs are there, and none of them is the source. -/
theorem leads_desk (source : String) (writable : report.Written old) :
    ∀ o ∈ deskGateway.outputs stalled.settings.synthesis.topModule, ∃ name n old,
      name ≠ "rom" ∧ (deskFiles source report).node? o.1 = .ok ([name], n) ∧ n.Written old := by
  intro o mem
  simp only [MockGateway.outputs, List.mem_cons, List.not_mem_nil, or_false] at mem
  rcases mem with rfl | rfl | rfl | rfl | rfl
  · exact ⟨"Top.bit", _, _, by decide,
      FileSystem.node?_file_of_isName rfl rfl (by decide +kernel) rfl, .file 1 newFileMode⟩
  · exact ⟨"synthesis.log", _, _, by decide,
      FileSystem.node?_file_of_isName rfl rfl (by decide +kernel) rfl, .file 2 newFileMode⟩
  · exact ⟨"post_route_util.rpt", _, _, by decide, leads_report source writable, writable⟩
  · exact ⟨"post_route_timing.rpt", _, _, by decide,
      FileSystem.node?_file_of_isName rfl rfl (by decide +kernel) rfl, .file 3 newFileMode⟩
  · exact ⟨"post_route_power.rpt", _, _, by decide,
      FileSystem.node?_file_of_isName rfl rfl (by decide +kernel) rfl, .file 4 newFileMode⟩

theorem leads_source (source : String) (report : Node) :
    (deskFiles source report).node? stalled.settings.patchTarget.path =
      .ok (["rom"], .file 0 newFileMode source.toUTF8) :=
  FileSystem.node?_file_of_isName rfl rfl (by decide +kernel) rfl

theorem apart_desk {files : FileSystem} (writable : report.Written old)
    (keeps : (deskFiles source report).Keeps files) :
    (desk build opens).Apart deskGateway files := by
  intro o mem same
  obtain ⟨name, n, old, other, leads, -⟩ := leads_desk source writable o mem
  have output := (keeps.stays o.1).place? (FileSystem.place?_eq_some_iff.2 ⟨n, leads⟩)
  have source := (keeps.stays _).place?
    (FileSystem.place?_eq_some_iff.2 ⟨_, leads_source source report⟩)
  cases output.symm.trans (same.trans source)
  exact other rfl

/-- A plain report is a file of its own. -/
theorem own_desk {files : FileSystem} (keeps : (deskFiles source plainReport).Keeps files) :
    deskGateway.OwnReport files := by
  have writable : plainReport.Written .empty := .file 5 newFileMode
  obtain ⟨n, leads, same⟩ := keeps.stays _ _ _ (leads_report source writable)
  cases n with
  | file number mode bytes =>
    refine ⟨_, number, mode, bytes, leads, fun m other here => ?_⟩
    have place : files.place? (deskGateway.reportPath m) = some [m.reportFile] :=
      (keeps.stays _).place? (placed_report source writable m)
    cases m with
    | utilization => exact other rfl
    | timing => exact absurd (here.symm.trans place) (by decide)
    | power => exact absurd (here.symm.trans place) (by decide)
  | _ => cases same

theorem readText_deskFiles (source : String) (report : Node) :
    (deskFiles source report).readText stalled.settings.patchTarget.path = .ok source :=
  FileSystem.readText_of_isName rfl rfl isName_stalled rfl

theorem patchSource_desk (build opens : FileSystem → FileSystem) (report : Node) :
    (desk build opens).patchSource haltProgram (deskStart report) =
      (deskStart report, .ok ⟨false, 1, 0⟩) :=
  patchSource_halt rfl rfl (readText_deskFiles haltSource report)

theorem await_desk (build opens : FileSystem → FileSystem) (bench : Workbench) :
    (desk build opens).awaitWork.Ends 0 (bench, some 0) (.ok (Duration.ofMillis 10))
      (Duration.ofMillis 10) (bench, none) := by
  have next : (Monitor.every stalled.settings.monitor.pollInterval).next
      stalled.settings.monitor.timeout 0 = Duration.ofMillis 10 := by decide
  have silent : (desk build opens).parts.channel.drain stalled.settings.monitor.sentinel 0
      (bench, some 0) = some ((bench, some 0), .ok false) :=
    Channel.drain_eq_some_iff.2 (.nothing rfl)
  have sent : (desk build opens).parts.channel.drain stalled.settings.monitor.sentinel
      (0 + Duration.ofMillis 10) (bench, some 0) = some ((bench, none), .ok true) :=
    Channel.drain_eq_some_iff.2 (.seen rfl)
  rw [← next] at sent
  have ends := Monitor.finish?_await_of_second _ _ _ (by decide) silent sent
  rw [next] at ends
  exact ends

/-- A synthesis at the desk succeeds, and leaves the source as it is. -/
theorem synthesize_desk (createdAt : Timestamp) (source : String) (writable : report.Written old) :
    ∃ bench artifact,
      deskGateway.synthesize createdAt stalled.settings.hdlPaths
        stalled.settings.synthesis.topModule stalled.settings.synthesis.partNumber
        ⟨deskFiles source report, .empty⟩ = (bench, .ok artifact) ∧
      (deskFiles source report).Keeps bench.files ∧
      bench.files.readText stalled.settings.patchTarget.path = .ok source := by
  have made : (deskFiles source report).makeFolders deskGateway.buildDir =
      .ok (deskFiles source report) :=
    FileSystem.makeFolders_root rfl
  obtain ⟨files, written⟩ : ∃ files, MockGateway.writeFiles
      (deskGateway.outputs stalled.settings.synthesis.topModule) (deskFiles source report) =
        (files, .ok ()) := by
    refine MockGateway.exists_writeFiles fun o mem => ?_
    obtain ⟨name, n, old, -, leads, written⟩ := leads_desk source writable o mem
    exact ⟨[name], n, old, leads, written⟩
  have keeps := MockGateway.keeps_of_writeFiles written
  obtain ⟨memory, artifact, synthesized⟩ : ∃ memory artifact, deskGateway.synthesize createdAt
      stalled.settings.hdlPaths stalled.settings.synthesis.topModule
      stalled.settings.synthesis.partNumber ⟨deskFiles source report, .empty⟩ =
        (⟨files, memory⟩, .ok artifact) := by
    unfold MockGateway.synthesize
    rw [made]
    dsimp only
    rw [written]
    exact ⟨_, _, rfl⟩
  have read : (deskFiles source report).readText stalled.settings.patchTarget.path =
      .ok source := by
    rw [FileSystem.readText_eq_ok_iff, FileSystem.readBytes, leads_source]
  have apart : (desk id id).Apart deskGateway files := apart_desk writable keeps
  exact ⟨_, artifact, synthesized, keeps,
    MockGateway.readText_of_synthesize synthesized read apart⟩

/-- The first run completes, whatever becomes of the source in its build, and of the files when the
channel is opened. -/
theorem desk_completes (build opens : FileSystem → FileSystem) (writable : report.Written old)
    (built : build (deskFiles haltSource report) = deskFiles source report) :
    ∃ run w files, ((desk build opens).run ⟨"r"⟩ haltProgram).Ends 0 (deskStart report) (.ok run)
        (Duration.ofMillis 10) w ∧
      (deskFiles source report).Keeps files ∧
      files.readText stalled.settings.patchTarget.path = .ok source ∧
      w.1.files = opens files ∧
      run.utilization.raw = deskGateway.utilizationText w.1.files := by
  have mocked := mocked_desk build opens
  obtain ⟨bench, artifact, synthesized, keeps, read⟩ :=
    synthesize_desk ((desk build opens).epoch.later 0) source writable
  have built : (desk build opens).buildWork.Ends 0 (deskStart report) (.ok ⟨some 0, "", "", 0⟩) 0
      (⟨deskFiles source report, .empty⟩, none) := by
    refine Work.ends_act_iff.2 ⟨?_, rfl⟩
    rw [deskStart, built]
  obtain ⟨v, w, synthesize, flash, rfl⟩ := mocked.exists_synthesize_flash
    (w := (⟨deskFiles source report, .empty⟩, none)) synthesized
  let bench : Workbench := { w.1 with files := opens w.1.files }
  have opened : (desk build opens).parts.openChannel.Ends 0 w (.ok ()) 0 (bench, some 0) := rfl
  have analyze := mocked.analyze_ends_iff (w := (bench, none)).2
    ⟨rfl, (rfl : Duration.ofMillis 10 = Duration.ofMillis 10), rfl⟩
  have called : (desk build opens).Called haltProgram 0 (deskStart report)
      ⟨⟨false, 1, 0⟩, ⟨some 0, "", "", 0⟩, artifact, _, Duration.ofMillis 10, _⟩
      (Duration.ofMillis 10) (bench, none) :=
    .intro (patchSource_desk build opens report) built synthesize flash opened
      (await_desk build opens bench) analyze
  obtain ⟨score, value⟩ : ∃ score, Score.of (Duration.ofMillis 10).seconds
      (deskGateway.utilizationText bench.files) stalled.settings.scoring.resourceKey =
        .ok score := by
    have positive : (Duration.ofMillis 10).seconds.isPositiveFinite = true := by decide +kernel
    unfold Score.of
    rw [if_pos positive]
    exact ⟨_, rfl⟩
  have in_time : Duration.ofMillis 10 ≤ 0 + stalled.settings.runLimit := by decide
  obtain ⟨run, ends, completes, -⟩ :=
    (desk build opens).completed_of_called ⟨"r"⟩ called nofun value in_time
  refine ⟨run, _, w.1.files, ends, keeps, read, rfl, ?_⟩
  rw [completes.utilization]
  rfl

/-- No run completes where the source is empty. -/
theorem desk_fails_of_emptied {w : Workbench × Option Duration}
    (emptied : w.1.files.readText stalled.settings.patchTarget.path = .ok "") {id : RunId}
    {now later : Duration} {run : CompletedRun} {v : Workbench × Option Duration} :
    ¬ ((desk build opens).run id haltProgram).Ends now w (.ok run) later v := by
  intro ends
  obtain ⟨answers, called, -⟩ := (desk build opens).answers_of_completed ends
  cases called with
  | intro patch _ _ _ _ _ _ =>
    obtain ⟨-, content, m, read, parsed, -⟩ :=
      Patch.apply_eq_ok ((mocked_desk build opens).patchSource_eq_ok patch)
    cases emptied.symm.trans read
    have none : Patch.parseRegion "" stalled.settings.patchTarget.startMarker
        stalled.settings.patchTarget.endMarker stalled.settings.patchTarget.path =
          .error (.markerNotFound .start "<<" ⟨"/rom"⟩) := rfl
    cases none.symm.trans parsed

end Desk

/-- A program is run again at the desk, where nothing but the gateway changes a file. -/
theorem desk_reruns_measure_alike :
    ∃ run w,
      ((desk id id).run ⟨"r"⟩ haltProgram).Ends 0 (deskStart plainReport) (.ok run)
        (Duration.ofMillis 10) w ∧
      (desk id id).ScoredByReport deskGateway w.1.files run ∧
      run.utilization.raw = deskGateway.settings.utilizationReport ∧
      ∀ v, (desk id id).Reruns haltProgram w v → ∀ id' now', ∃ run' v',
        ((desk id id).run id' haltProgram).Ends now' v (.ok run') (now' + Duration.ofMillis 10)
            v' ∧
          run'.Repeats run ∧ (desk id id).ScoredByReport deskGateway w.1.files run' := by
  have writable : plainReport.Written .empty := .file 5 newFileMode
  obtain ⟨run, w, files, first, keeps, -, left, -⟩ := desk_completes id id writable rfl
  rw [id_eq] at left
  subst left
  have apart : (desk id id).Apart deskGateway w.1.files := apart_desk writable keeps
  obtain ⟨scored, again⟩ := reruns_measure_alike (mocked_desk id id) (steady_desk id id _)
    (spares_desk _) first apart
  exact ⟨run, w, first, scored, scored.report (own_desk keeps), again⟩

/-- A run has completed at a desk whose build and channel are steady, and the source is none of the
files that the gateway has written. -/
structure RanAtDesk (p : Pipeline (Workbench × Option Duration)) (report : Node)
    (run : CompletedRun) (w : Workbench × Option Duration) : Prop where
  mocked : p.OverMock deskGateway Prod.fst fun bench s => (bench, s.2)
  steady : p.Steady haltProgram (deskStart report)
  ends : (p.run ⟨"r"⟩ haltProgram).Ends 0 (deskStart report) (.ok run) (Duration.ofMillis 10) w
  apart : p.Apart deskGateway w.1.files

/-- What was given beforehand is not reported where the report leads to a device that holds nothing.
And no program is run again where a build empties the source, or a channel when it is opened. -/
theorem report_lost_or_source_lost :
    (∃ run w, (desk id id).RanAtDesk (.device .sink) run w ∧
      run.utilization.raw ≠ deskGateway.settings.utilizationReport) ∧
    (∃ run w, (desk (fun _ => deskFiles "" plainReport) id).RanAtDesk plainReport run w ∧
      ∀ id' now' run' later' v',
        ¬ ((desk (fun _ => deskFiles "" plainReport) id).run id' haltProgram).Ends now' w
          (.ok run') later' v') ∧
    ∃ run w, (desk id fun _ => deskFiles "" plainReport).RanAtDesk plainReport run w ∧
      ∀ id' now' run' later' v',
        ¬ ((desk id fun _ => deskFiles "" plainReport).run id' haltProgram).Ends now' w
          (.ok run') later' v' := by
  have writable : plainReport.Written .empty := .file 5 newFileMode
  refine ⟨?device, ?build, ?channel⟩
  case device =>
    have writable : (Node.device .sink).Written .empty := .device .sink
    obtain ⟨run, w, files, ends, keeps, -, left, raw⟩ := desk_completes id id writable rfl
    rw [id_eq] at left
    subst left
    refine ⟨run, w, ⟨mocked_desk _ _, steady_desk _ _ _, ends, apart_desk writable keeps⟩, ?_⟩
    -- The report is still the device, which is read as nothing.
    obtain ⟨n, leads, same⟩ := keeps.stays _ _ _ (leads_report haltSource writable)
    cases n with
    | device kind =>
      cases same
      have read : w.1.files.readText (deskGateway.reportPath .utilization) = .ok "" := by
        rw [FileSystem.readText_eq_ok_iff, FileSystem.readBytes, leads]
        rfl
      rw [raw, MockGateway.utilizationText, read]
      decide
    | _ => cases same
  case build =>
    obtain ⟨run, w, files, ends, keeps, emptied, left, -⟩ :=
      desk_completes (fun _ => deskFiles "" plainReport) id writable rfl
    rw [id_eq] at left
    subst left
    exact ⟨run, w, ⟨mocked_desk _ _, steady_desk _ _ _, ends, apart_desk writable keeps⟩,
      fun _ _ _ _ _ => desk_fails_of_emptied emptied⟩
  case channel =>
    obtain ⟨run, w, files, ends, -, -, left, -⟩ :=
      desk_completes id (fun _ => deskFiles "" plainReport) writable rfl
    have emptied : w.1.files.readText stalled.settings.patchTarget.path = .ok "" := by
      rw [left, FileSystem.readText_eq_ok_iff, FileSystem.readBytes, leads_source]
    have keeps : (deskFiles "" plainReport).Keeps w.1.files := by
      rw [left]
      exact .refl _
    exact ⟨run, w, ⟨mocked_desk _ _, steady_desk _ _ _, ends, apart_desk writable keeps⟩,
      fun _ _ _ _ _ => desk_fails_of_emptied emptied⟩

end Pipeline

end CoreTrial
