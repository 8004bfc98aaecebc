import CoreTrial.Proofs.FileSystem.Flat
import CoreTrial.Proofs.Patch.Outcome
import CoreTrial.Proofs.Pipeline.Stages

/-!
# What a failed run leaves behind

A run that fails in a stage has in its log exactly the stages before that one, all ended well, and
then the failure. Of each stage before it holds the output, and of no other one, but for a build
that was not tolerated. `Draft.Reached` is what every stage keeps of this; a limit that strikes
finds the draft as the stage before has left it.
-/

set_option autoImplicit false

namespace CoreTrial

/-- The stages that leave an output in the draft. -/
def Stage.withOutput : List Stage := [.build, .synthesize, .flash, .measure, .analyze]

/-- The stage after the last of those before `s` is `s`. -/
theorem Stage.after_getLast?_before (s : Stage) : Stage.after s.before.getLast? = s := by
  cases s <;> rfl

/-- The first stage that is not before `s` is `s`. -/
theorem Stage.find?_notMem_before (s : Stage) :
    Stage.all.find? (fun r => r ∉ s.before) = some s := by
  cases s <;> rfl

theorem Stage.exists_index_eq {n : Nat} (h : n < 7) : ∃ s : Stage, s.index = n := by
  match n, h with
  | 0, _ => exact ⟨.inject, rfl⟩
  | 1, _ => exact ⟨.build, rfl⟩
  | 2, _ => exact ⟨.synthesize, rfl⟩
  | 3, _ => exact ⟨.flash, rfl⟩
  | 4, _ => exact ⟨.measure, rfl⟩
  | 5, _ => exact ⟨.analyze, rfl⟩
  | 6, _ => exact ⟨.score, rfl⟩

theorem Stage.index_lt (s : Stage) : s.index < 7 := by
  cases s <;> decide

theorem Stage.mem_before_iff {r s : Stage} : r ∈ s.before ↔ r.index < s.index := by
  cases r <;> cases s <;> decide

theorem Stage.before_snoc (s : Stage) : Stage.all.take (s.index + 1) = s.before ++ [s] := by
  cases s <;> rfl

namespace Draft

/-- The output of a stage is there. -/
def holds (d : Draft) : Stage → Bool
  | .build => d.build.isSome
  | .synthesize => d.artifact.isSome
  | .flash => d.flash.isSome
  | .measure => d.elapsed.isSome
  | .analyze => d.utilization.isSome
  | .inject | .score => false

/-- Exactly the first `n` stages have ended, and all of them well. -/
structure Reached (n : Nat) (d : Draft) : Prop where
  log : d.stages.map (·.stage) = Stage.all.take n
  unfailed : ∀ o ∈ d.stages, o.status ≠ .failed
  outputs : ∀ s ∈ Stage.withOutput, d.holds s = decide (s.index < n)

theorem reached_begin (id : RunId) (program : Program) (now : Timestamp) :
    (begin id program now).Reached 0 where
  log := rfl
  unfailed := by simp [begin]
  outputs := by
    intro s _
    cases s <;> rfl

theorem holds_record (d : Draft) (stage : Stage) (status : StageStatus) (detail : String)
    (now : Timestamp) (s : Stage) : (d.record stage status detail now).holds s = d.holds s := by
  cases s <;> rfl

variable {d d' : Draft} {s : Stage}

/-- A stage that ends well adds one entry to the log, which is no failure. -/
theorem Advances.log (h : d.Advances s d') :
    ∃ o, d'.stages = d.stages ++ [o] ∧ o.stage = s ∧ o.status ≠ .failed := by
  cases h with
  | score score now =>
    refine ⟨_, rfl, rfl, ?_⟩
    cases score.defaulted <;> nofun
  | _ => exact ⟨_, rfl, rfl, nofun⟩

/-- A stage that ends well fills its own output and leaves the others as they are. -/
theorem Advances.holds (h : d.Advances s d') {r : Stage} (hr : r ∈ Stage.withOutput) :
    d'.holds r = (decide (r = s) || d.holds r) := by
  simp only [Stage.withOutput, List.mem_cons, List.not_mem_nil, or_false] at hr
  rcases hr with rfl | rfl | rfl | rfl | rfl <;> cases h <;> rfl

/-- After one more stage has ended well, one more stage is reached. -/
theorem Advances.reached (h : d.Advances s d') (hd : d.Reached s.index) :
    d'.Reached (s.index + 1) := by
  obtain ⟨o, log, stage, status⟩ := h.log
  refine ⟨?_, ?_, ?_⟩
  · rw [log, List.map_append, hd.log, Stage.before_snoc, ← stage]
    rfl
  · intro e he
    rw [log] at he
    rcases List.mem_append.1 he with he | he
    · exact hd.unfailed e he
    · rw [List.mem_singleton.1 he]
      exact status
  · intro r hr
    rw [h.holds hr, hd.outputs r hr]
    cases r <;> cases s <;> rfl

/-- A stage that fails adds nothing to the log itself. -/
theorem Halts.log {reason : PipelineError} (h : d.Halts s reason d') : d'.stages = d.stages := by
  cases h <;> rfl

/-- A stage that fails leaves no output, but for a build that is not tolerated. -/
theorem Halts.holds_iff {reason : PipelineError} (h : d.Halts s reason d') {r : Stage}
    (hr : r ∈ Stage.withOutput) :
    d'.holds r = true ↔
      d.holds r = true ∨ (r = .build ∧ ∃ result, reason = .buildFailure result) := by
  cases h with
  | stopped other =>
    constructor
    · exact .inl
    · rintro (h | ⟨-, result, h⟩)
      · exact h
      · exact absurd h (other result)
  | refused result =>
    simp only [Stage.withOutput, List.mem_cons, List.not_mem_nil, or_false] at hr
    rcases hr with rfl | rfl | rfl | rfl | rfl <;> simp [holds]

/-- The stage after the last one that has ended. -/
theorem Reached.after_lastStage? (h : d.Reached s.index) : Stage.after d.lastStage? = s := by
  rw [lastStage?, ← List.getLast?_map, h.log]
  exact Stage.after_getLast?_before s

/-- A draft of which all stages have ended can be completed. -/
theorem Reached.complete (h : d.Reached 7) (score : Score) (now : Timestamp) :
    ∃ run, d.complete score now = .ok run := by
  have build : d.build.isSome = true := h.outputs .build (by decide)
  have artifact : d.artifact.isSome = true := h.outputs .synthesize (by decide)
  have flash : d.flash.isSome = true := h.outputs .flash (by decide)
  have elapsed : d.elapsed.isSome = true := h.outputs .measure (by decide)
  have utilization : d.utilization.isSome = true := h.outputs .analyze (by decide)
  rw [Option.isSome_iff_exists] at build artifact flash elapsed utilization
  obtain ⟨_, build⟩ := build
  obtain ⟨_, artifact⟩ := artifact
  obtain ⟨_, flash⟩ := flash
  obtain ⟨_, elapsed⟩ := elapsed
  obtain ⟨_, utilization⟩ := utilization
  unfold Draft.complete
  rw [build, artifact, flash, elapsed, utilization]
  exact ⟨_, rfl⟩

end Draft

/-- A failure stands in the log after the stages before it, in a draft that these have left and
the failed stage has changed only as it may. -/
def RunFailure.Logged (f : RunFailure) : Prop :=
  ∃ before after : Draft, ∃ now, before.Reached f.stage.index ∧
    before.Halts f.stage f.reason after ∧
    f.draft = after.record f.stage .failed f.reason.message now

namespace Pipeline

variable {σ : Type} (p : Pipeline σ) (program : Program)

/-- What the first `n` stages keep: wherever they wait, some number of stages is reached. -/
theorem first_meets {n : Nat} (hn : n ≤ 7) (now : Duration) {a : Attempt σ}
    (ha : a.draft.Reached 0) :
    ((p.first program n).run now a).Meets (fun b => ∃ s : Stage, b.draft.Reached s.index)
      fun b r =>
        match r with
        | .ok _ => b.draft.Reached n
        | .error f => ∃ d : Draft, d.Reached f.stage.index ∧ d.Halts f.stage f.reason b.draft := by
  induction n with
  | zero => exact .done ha
  | succ n ih =>
    obtain ⟨s, rfl⟩ := Stage.exists_index_eq hn
    rw [first, Step.run_bind]
    refine Activity.Meets.andThen ((ih (by omega)).mono (fun _ h => h) fun b r h t => ?_) now
    cases r with
    | error f => exact .done h
    | ok handed =>
      refine (p.perform_meets program t b s handed).mono (fun c hc => ⟨s, ?_⟩) fun c r hr => ?_
      · rw [hc]
        exact h
      · cases r with
        | ok _ => exact hr.reached h
        | error f =>
          obtain ⟨rfl, halts⟩ := hr
          exact ⟨b.draft, h, halts⟩

theorem attempt_apply (now : Duration) (a : Attempt σ) :
    p.attempt program now a =
      (((p.stages program).run now a).within p.settings.runLimit).andThen now fun r t b =>
        .done b (p.conclude b.draft (p.epoch.later t) r) := rfl

/-- A run before its first stage. -/
def outset (p : Pipeline σ) (id : RunId) (program : Program) (now : Duration) (world : σ) :
    Attempt σ :=
  ⟨world, Draft.begin id program (p.epoch.later now)⟩

theorem run_apply (id : RunId) (now : Duration) (world : σ) :
    p.run id program now world =
      ((((p.first program 7).run now (p.outset id program now world)).within
        p.settings.runLimit).andThen now fun r t b =>
          .done b (p.conclude b.draft (p.epoch.later t) r)).embed Attempt.world := by
  rw [first_all, ← attempt_apply]
  rfl

/-- A failed conclusion is logged when the draft is as the stages have left it. -/
theorem conclude_logged {d : Draft} {r : Option (Except StageFailure Score)} {now : Timestamp}
    {f : RunFailure}
    (h : match r with
      | some (.ok _) => d.Reached 7
      | some (.error g) => ∃ e : Draft, e.Reached g.stage.index ∧ e.Halts g.stage g.reason d
      | none => ∃ s : Stage, d.Reached s.index)
    (failed : p.conclude d now r = .error f) : f.Logged := by
  match r, h with
  | none, ⟨s, reached⟩ =>
    simp only [conclude, reached.after_lastStage?, Except.error.injEq] at failed
    subst failed
    exact ⟨d, d, _, reached, .stopped nofun, rfl⟩
  | some (.error g), ⟨e, reached, halts⟩ =>
    cases failed
    exact ⟨e, d, _, reached, halts, rfl⟩
  | some (.ok score), reached =>
    obtain ⟨run, complete⟩ := reached.complete score now
    rw [conclude, complete] at failed
    cases failed

/-- A run that fails leaves its failure in the log where it belongs. -/
theorem run_logged (id : RunId) (now : Duration) (world : σ) :
    (p.run id program now world).Meets (fun _ => True) fun _ r =>
      ∀ f, r = .error f → f.Logged := by
  rw [run_apply]
  have start := Draft.reached_begin id program (p.epoch.later now)
  have kept := (p.first_meets program (Nat.le_refl 7) now
    (a := p.outset id program now world) start).within p.settings.runLimit
  refine .embed (.andThen (kept.mono (fun _ _ => trivial) ?_) now)
  intro b r h t
  refine .done fun f failed => p.conclude_logged ?_ failed
  cases r with
  | none => exact h
  | some r => cases r <;> exact h

/-- **The record of a failed run.** Its log is the stages before the one that failed, each once and
in order and none of them failed, and then this failure with the text of its reason; so the stage
that failed, also by the limit of the whole run, is the first one without an entry before. An
output is there when its stage comes before, and the build's also when it was not tolerated. -/
theorem failed_run_record {id : RunId} {now t : Duration} {world w : σ} {f : RunFailure}
    (failed : (p.run id program now world).finish? now = some (w, .error f, t)) :
    (∃ done last, f.draft.stages = done ++ [last] ∧
        done.map (·.stage) = f.stage.before ∧ (∀ o ∈ done, o.status ≠ .failed) ∧
        last.stage = f.stage ∧ last.status = .failed ∧ last.detail = f.reason.message ∧
        Stage.all.find? (fun s => s ∉ done.map (·.stage)) = some f.stage) ∧
      ∀ s ∈ Stage.withOutput, f.draft.holds s = true ↔
        s ∈ f.stage.before ∨ (s = .build ∧ ∃ result, f.reason = .buildFailure result) := by
  obtain ⟨before, after, at_, reached, halts, draft⟩ :=
    (p.run_logged program id now world).finish failed f rfl
  have log : before.stages.map (·.stage) = f.stage.before := reached.log
  constructor
  · refine ⟨before.stages, ⟨f.stage, .failed, f.reason.message, at_⟩, ?_, log, reached.unfailed,
      rfl, rfl, rfl, ?_⟩
    · rw [draft, Draft.record, halts.log]
    · rw [log]
      exact Stage.find?_notMem_before f.stage
  · intro s hs
    rw [draft, Draft.holds_record, halts.holds_iff hs, reached.outputs s hs, decide_eq_true_iff,
      Stage.mem_before_iff]

/-- A program that only loops. -/
def haltProgram : Program :=
  ⟨"halt", [⟨0x6F, ""⟩], by decide⟩

/-- A source into which `haltProgram` is already injected. -/
def haltSource : String :=
  "<<\n    \"h0000006F\".U(32.W)\n  >>"

/-- A source file into which `haltProgram` is already injected. -/
def romFiles : FileSystem where
  nodes := [([], .folder newFolderMode),
    (["rom"], .file 0 newFileMode haltSource.toUTF8)]
  home := []
  next := 1

/-- A pipeline that tolerates a failed build and whose synthesis never ends. -/
def stalled : Pipeline FileSystem where
  settings := {
    patch := { file := ⟨"/rom"⟩, startMarker := "<<", endMarker := ">>" }
    build := { onFailure := .continue } }
  parts := {
    files := fun files => files
    setFiles := fun files _ => files
    build := fun _ _ _ => Work.pure (.ok ⟨none, "", "", 0⟩)
    gateway := {
      synthesize := fun _ _ _ _ files => .never files
      flash := fun _ _ => Work.pure (.error (.artifactNotFound ⟨""⟩))
      analyze := fun _ => Work.pure (.error (.artifactNotFound ⟨""⟩))
      verify := fun _ _ => Work.pure (.error (.artifactNotFound ⟨""⟩)) }
    openChannel := Work.pure (.ok ())
    channel := { sample := fun _ files => (files, .ok none) } }
  epoch := ⟨0, 0⟩

/-- A source that holds the program already is left as it is. -/
theorem apply_halt {fs : FileSystem}
    (read : fs.readText stalled.settings.patchTarget.path = .ok haltSource) :
    Patch.apply fs stalled.settings.patchTarget
      (Encoding.entries stalled.settings.patch.encoding haltProgram) =
        .ok (fs, ⟨false, 1, 0⟩) := by
  let m : MarkedText :=
    ⟨[], ['<', '<'], "\n    \"h0000006F\".U(32.W)\n  ".toList, ['>', '>'], []⟩
  have fit : Patch.validate (Encoding.entries stalled.settings.patch.encoding haltProgram)
      stalled.settings.patchTarget.endMarker = .ok () := by decide +kernel
  have parsed : Patch.parseRegion haltSource stalled.settings.patchTarget.startMarker
      stalled.settings.patchTarget.endMarker stalled.settings.patchTarget.path = .ok m := by
    decide +kernel
  have same : Region.splice m (Encoding.entries stalled.settings.patch.encoding haltProgram) =
      haltSource := by decide +kernel
  exact Patch.apply_of_splice_eq fit read parsed same

theorem patchSource_halt {p : Pipeline σ} {world : σ}
    (folder : p.settings.hardwareDir = stalled.settings.hardwareDir)
    (patch : p.settings.patch = stalled.settings.patch)
    (read : (p.parts.files world).readText stalled.settings.patchTarget.path = .ok haltSource) :
    p.patchSource haltProgram world =
      (p.parts.setFiles (p.parts.files world) world, .ok ⟨false, 1, 0⟩) := by
  have target : p.settings.patchTarget = stalled.settings.patchTarget := by
    unfold PipelineSettings.patchTarget PipelineSettings.resolve
    rw [folder, patch]
  unfold patchSource
  rw [patch, target]
  dsimp only
  rw [apply_halt read]

/-- The injection of a program that is there already only adds to the log. -/
theorem inject_halt {p : Pipeline σ} {world : σ} (now : Duration) (d : Draft)
    (patched : p.patchSource haltProgram world = (world, .ok ⟨false, 1, 0⟩)) :
    (p.inject haltProgram).run now ⟨world, d⟩ =
      .done ⟨world, d.record .inject .succeeded "program already present" (p.epoch.later now)⟩
        (.ok ()) := by
  have patch : Work.act (p.patchSource haltProgram) now world =
      .done world (.ok ⟨false, 1, 0⟩) := by
    rw [Work.act, patched]
  unfold inject
  rw [Step.run_bind, Step.run_call, patch]
  rfl

/-- The source of that pipeline stands in the root folder. -/
theorem isName_stalled : FileSystem.isName stalled.settings.patchTarget.path "rom" = true := by
  decide +kernel

theorem readText_romFiles :
    romFiles.readText stalled.settings.patchTarget.path = .ok haltSource :=
  FileSystem.readText_of_isName rfl rfl isName_stalled rfl

theorem patchSource_stalled :
    stalled.patchSource haltProgram romFiles = (romFiles, .ok ⟨false, 1, 0⟩) :=
  patchSource_halt rfl rfl readText_romFiles

/-- The limit strikes in the synthesis: the log ends there, and only the build has an output. -/
theorem stalled_run_record :
    ∃ w f, (stalled.run ⟨"r"⟩ haltProgram 0 romFiles).finish? 0 =
        some (w, .error f, Duration.ofSeconds 3600) ∧
      (∃ done last, f.draft.stages = done ++ [last] ∧
        done.map (·.stage) = [.inject, .build] ∧ last.stage = .synthesize ∧
        last.status = .failed) ∧
      ∀ s ∈ Stage.withOutput, f.draft.holds s = true ↔ s = .build := by
  have ends : ∃ w f, (stalled.run ⟨"r"⟩ haltProgram 0 romFiles).finish? 0 =
      some (w, .error f, Duration.ofSeconds 3600) ∧ f.stage = .synthesize ∧
        ∀ result, f.reason ≠ .buildFailure result := by
    unfold run
    rw [attempt_apply]
    unfold stages
    rw [Step.run_bind, inject_halt 0 _ patchSource_stalled]
    exact ⟨_, _, rfl, rfl, nofun⟩
  obtain ⟨w, f, failed, stage, other⟩ := ends
  obtain ⟨⟨done, last, log, done_stages, -, last_stage, last_status, -⟩, outputs⟩ :=
    stalled.failed_run_record haltProgram failed
  refine ⟨w, f, failed, ⟨done, last, log, ?_, last_stage.trans stage, last_status⟩, ?_⟩
  · rw [done_stages, stage]
    rfl
  · intro s hs
    rw [outputs s hs, stage, or_iff_left fun h => h.2.elim other]
    revert hs
    cases s <;> decide

end Pipeline

end CoreTrial
