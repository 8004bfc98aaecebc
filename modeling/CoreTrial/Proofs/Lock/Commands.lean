import CoreTrial.CommandLine.Execution
import CoreTrial.Proofs.Activity.Meets
import CoreTrial.Proofs.Lock.Turns
import CoreTrial.Proofs.Pipeline.Record

/-!
# The commands that take turns

A run and an injection do at a source what a process of a contest does, and in that order: they
acquire the lock, patch the source, a run goes on to its later stages, and both release the lock
however they end. So what is known of a contest is known of these commands.
-/

set_option autoImplicit false

namespace CoreTrial

/-- A run whose patch fails ends with it, and has changed nothing. -/
theorem Pipeline.run_of_patch_error {σ : Type} (p : Pipeline σ) (id : RunId) (program : Program)
    (now : Duration) (world : σ) {e : PatchError}
    (failed : Patch.apply (p.parts.files world) p.settings.patchTarget
      (Encoding.entries p.settings.patch.encoding program) = .error e) :
    ∃ r, p.run id program now world = .done world r := by
  have patched : p.patchSource program world = (world, .error e) := by
    simp only [patchSource, failed]
  have injected (a : Attempt σ) (same : a.world = world) :
      (p.inject program).run now a = .done a (.error ⟨.inject, .patch e⟩) := by
    unfold inject
    rw [Step.run_bind, Step.run_call, same]
    simp only [Work.act, patched, Activity.embed, Activity.andThen]
    rw [← same]
  let a := p.outset id program now world
  have ended : (p.stages program).run now a = .done a (.error ⟨.inject, .patch e⟩) := by
    unfold stages
    rw [Step.run_bind, injected a rfl]
    rfl
  refine ⟨p.conclude a.draft (p.epoch.later now) (some (.error ⟨.inject, .patch e⟩)), ?_⟩
  change (p.attempt program now a).embed Attempt.world = _
  rw [attempt_apply, ended]
  rfl

namespace Contest

open CommandLine (Surroundings Answer)

/-- After what has been done, a process has come to this scene by deeds of its own. -/
def Continues (c : Contest) (start : FileSystem) (past : List (Nat × Deed)) (process : Nat)
    (s : Scene) : Prop :=
  ∃ own, c.History start (past ++ own) s ∧ ∀ d ∈ own, d.1 = process

/-- The contest of a command: its lock, its source, and the program that it writes there. -/
structure Describes (c : Contest) (e : Surroundings) (s : BenchSettings) (program : Program) :
    Prop where
  lock : c.lock = s.lockPath
  target : c.target = s.run.patchTarget
  entries : c.entries e.process = Encoding.entries s.run.patch.encoding program

/-- What the stages of a run can make of the files that its patch has left. -/
def Foresees (c : Contest) (e : Surroundings) (s : BenchSettings) (program : Program)
    (now : Duration) : Prop :=
  ∀ source files patched outcome,
    Patch.apply files s.run.patchTarget (Encoding.entries s.run.patch.encoding program) =
      .ok (patched, outcome) →
    (e.runStages s source program now files).Meets (c.later patched) fun left _ =>
      c.later patched left

variable {c : Contest} {start : FileSystem} {past : List (Nat × Deed)} {process : Nat}
  {s s' : Scene} {deed : Deed} {e : Surroundings} {settings : BenchSettings} {program : Program}
  {lock : RunLock} {files : FileSystem}

theorem History.continues (history : c.History start past s) (process : Nat) :
    c.Continues start past process s :=
  ⟨[], by rwa [List.append_nil], nofun⟩

theorem Continues.step (before : c.Continues start past process s)
    (step : c.Step process s deed s') : c.Continues start past process s' := by
  obtain ⟨own, history, all⟩ := before
  refine ⟨own ++ [(process, deed)], ?_, ?_⟩
  · rw [← List.append_assoc]
    exact history.step step
  · intro d mem
    rcases List.mem_append.1 mem with mem | mem
    · exact all d mem
    · rw [List.mem_singleton.1 mem]

section Turn

variable (c start past process)

/-- The process has come to this world. -/
def Comes (world : LockedFiles) : Prop :=
  ∃ s, c.Continues start past process s ∧ s.world = world

/-- The process has come to this world, and is outside again. -/
def Ends (world : LockedFiles) : Prop :=
  ∃ s, c.Continues start past process s ∧ s.world = world ∧ s.standing process = .outside

/-- The process has come to these files, and has the lock. -/
def Works (lock : RunLock) (live : List Nat) (files : FileSystem) : Prop :=
  ∃ s, c.Continues start past process s ∧ s.world = ⟨files, live⟩ ∧
    (s.standing process).lock? = some lock

end Turn

/-- Work under the lock begins with its acquisition and ends with its release. -/
theorem locked_takes_turn {work : Work FileSystem Answer} (now : Duration)
    (history : c.History start past s) (outside : s.standing e.process = .outside)
    (works : ∀ lock world, let locked := s.move e.process world (.locked lock)
      c.Continues start past e.process locked →
      (work now world.files).Meets (c.Works start past e.process lock world.live)
        fun files _ => c.Works start past e.process lock world.live files) :
    (e.locked c.lock work now s.world).Meets (c.Comes start past e.process) fun world _ =>
      c.Ends start past e.process world := by
  have begins := history.continues e.process
  unfold Surroundings.locked
  rw [Work.bind_apply]
  rcases acquired : RunLock.acquire e.process c.lock s.world with ⟨world, cause | lock⟩
  · simp only [Work.act, acquired, Activity.andThen]
    have refused := Step.isRefused outside acquired
    exact .done ⟨_, begins.step refused, rfl, s.standing_move_self e.process world .outside⟩
  · simp only [Work.act, acquired, Activity.andThen]
    have holds := works lock world (begins.step (.acquires outside acquired))
    refine Activity.Meets.andThen (Activity.Meets.embed (holds.mono ?_ ?_)) now
    · rintro files ⟨s', comes, reached, -⟩
      exact ⟨s', comes, reached⟩
    · rintro files answer ⟨s', comes, reached, holds⟩ t
      refine .done ⟨_, comes.step (.releases holds), ?_,
        s'.standing_move_self e.process (lock.release s'.world) .outside⟩
      change lock.release s'.world = _
      rw [reached]

/-- A patch that succeeds is two steps. -/
theorem continues_of_apply (describes : c.Describes e settings program) {outcome : PatchOutcome}
    (before : c.Continues start past e.process s) (locked : s.standing e.process = .locked lock)
    (applied : Patch.apply s.world.files settings.run.patchTarget
      (Encoding.entries settings.run.patch.encoding program) = .ok (files, outcome)) :
    ∃ s', c.Continues start past e.process s' ∧ s'.world = ⟨files, s.world.live⟩ ∧
      s'.standing e.process = .patched lock := by
  rw [Patch.apply_eq_prepare, ← describes.target, ← describes.entries] at applied
  cases prepared : Patch.prepare s.world.files c.target (c.entries e.process) with
  | error cause =>
    rw [prepared] at applied
    cases applied
  | ok found =>
    obtain ⟨content, cut⟩ := found
    rw [prepared] at applied
    let after := s.move e.process s.world (.prepared lock content cut)
    let world : LockedFiles := ⟨files, s.world.live⟩
    have reads : c.Step e.process s .reads after := .reads locked prepared
    have patches : c.Step e.process after .patches (after.move e.process world (.patched lock)) :=
      .patches (s.standing_move_self e.process s.world _) applied
    exact ⟨_, (before.step reads).step patches, rfl,
      after.standing_move_self e.process world (.patched lock)⟩

/-- An injection takes the steps of a process. -/
theorem inject_takes_turn {benchmark : String} {hardwareDir : Option Path} (now : Duration)
    (history : c.History start past s) (outside : s.standing e.process = .outside)
    (known : Benchmark.byName benchmark = .ok program)
    (describes : c.Describes e { settings with run := { settings.run with
      hardwareDir := hardwareDir.getD settings.run.hardwareDir } } program) :
    (e.inject benchmark hardwareDir false settings now s.world).Meets
      (c.Comes start past e.process) fun world _ => c.Ends start past e.process world := by
  unfold Surroundings.inject
  simp only [Bool.false_eq_true, if_false, known]
  rw [← describes.lock]
  refine locked_takes_turn now history outside fun lock world => ?_
  intro locked begins
  have standing : locked.standing e.process = .locked lock := s.standing_move_self e.process world _
  refine .done ?_
  dsimp only
  split
  · exact ⟨locked, begins, rfl, by rw [standing]; rfl⟩
  · rename_i files outcome applied
    obtain ⟨s', comes, reached, patched⟩ := continues_of_apply describes begins standing applied
    exact ⟨s', comes, reached, by rw [patched]; rfl⟩

/-- A run takes the steps of a process. -/
theorem run_takes_turn {format : CommandLine.OutputFormat} {options : CommandLine.RunOptions}
    (now : Duration) (history : c.History start past s)
    (outside : s.standing e.process = .outside)
    (known : Benchmark.byName options.benchmark = .ok program)
    (describes : c.Describes e (options.apply settings) program)
    (foresees : c.Foresees e (options.apply settings) program now) :
    (e.run format options settings now s.world).Meets
      (c.Comes start past e.process) fun world _ => c.Ends start past e.process world := by
  unfold Surroundings.run
  simp only [known]
  cases CommandLine.LineSource.ofSettings (options.apply settings) with
  | error cause => exact .done ⟨s, history.continues e.process, rfl, outside⟩
  | ok source =>
    rw [← describes.lock]
    refine locked_takes_turn now history outside fun lock world => ?_
    intro locked begins
    have standing : locked.standing e.process = .locked lock :=
      s.standing_move_self e.process world _
    suffices works : (e.runStages (options.apply settings) source program now world.files).Meets
        (c.Works start past e.process lock world.live)
        fun files _ => c.Works start past e.process lock world.live files from
      .andThen (works.mono (fun _ => id) fun _ _ works _ => .done works) now
    cases applied : Patch.apply world.files (options.apply settings).run.patchTarget
        (Encoding.entries (options.apply settings).run.patch.encoding program) with
    | error cause =>
      let p : Pipeline CommandLine.RunWorld :=
        ⟨(options.apply settings).run, e.collaborators (options.apply settings) source, e.epoch⟩
      let outset : CommandLine.RunWorld := ⟨⟨world.files, .empty⟩, .closed⟩
      let id := RunId.ofEntropy e.entropy
      change ((p.run id program now outset).embed fun w => w.bench.files).Meets _ _
      obtain ⟨r, ended⟩ := p.run_of_patch_error id program now outset applied
      rw [ended]
      exact .done ⟨locked, begins, rfl, by rw [standing]; rfl⟩
    | ok patch =>
      obtain ⟨files, outcome⟩ := patch
      obtain ⟨s', comes, reached, patched⟩ := continues_of_apply describes begins standing applied
      have works (left : FileSystem) (later : c.later files left) :
          c.Works start past e.process lock world.live left := by
        rw [show files = s'.world.files by rw [reached]] at later
        have step := Step.works patched later
        refine ⟨_, comes.step step, ?_, by rw [Scene.standing_move_self]; rfl⟩
        change { s'.world with files := left } = _
        rw [reached]
        rfl
      exact (foresees source world.files files outcome applied).mono works fun left _ =>
        works left

end Contest

end CoreTrial
