import CoreTrial.CommandLine.Execution
import CoreTrial.Proofs.Completion.Alike
import CoreTrial.Proofs.Completion.Arrival
import CoreTrial.Proofs.Pipeline.Measure
import CoreTrial.Proofs.Pipeline.Rerun

/-!
# Runs on no device

On no device the end of a program is told by a timer. It is set to a millisecond at least, whatever
the settings and the options say, and it is started at the very time at which the wait begins. So
the time that is measured is never empty, and the score of a run does not fail.
-/

set_option autoImplicit false

namespace CoreTrial

/-- What holds of the default of a field and of all that is read from one holds of the field. -/
theorem Json.Slot.orDefault_of {α : Type} {P : α → Prop} {d a : α} {read : Json → Option α}
    {slot : Json.Slot} (default : P d) (reads : ∀ v a, read v = some a → P a)
    (h : slot.orDefault d read = some a) : P a := by
  cases slot with
  | given v => exact reads v a h
  | _ =>
    cases h
    exact default

theorem Json.word64?_lt {v : Json} {n : Nat} (read : Json.word64? v = some n) :
    n < UInt64.size := by
  cases v with
  | int m =>
    rw [Json.word64?, Json.natUpTo?] at read
    split at read
    · rename_i within
      cases read
      have below : m ≤ ((2 ^ 64 - 1 : Nat) : Int) := within.2
      change m.toNat < 2 ^ 64
      omega
    · cases read
  | _ => cases read

/-- The timeout of settings that have been read has 64 bits. -/
theorem MonitorSettings.timeoutMillis_lt {j : Json} {s : MonitorSettings}
    (read : MonitorSettings.ofJson? j = some s) : s.timeoutMillis < UInt64.size := by
  unfold MonitorSettings.ofJson? at read
  split at read
  · obtain ⟨sentinel, -, read⟩ := Option.bind_eq_some_iff.1 read
    obtain ⟨timeout, given, read⟩ := Option.bind_eq_some_iff.1 read
    obtain ⟨poll, -, read⟩ := Option.bind_eq_some_iff.1 read
    cases read
    exact Json.Slot.orDefault_of (P := fun n => n < UInt64.size) (by decide)
      (fun _ _ => Json.word64?_lt) given
  · cases read

theorem BenchSettings.timeoutMillis_lt {fs : FileSystem} {file : Option String}
    {environment : List (String × String)} {s : BenchSettings}
    (loaded : BenchSettings.load? fs file environment = some s) :
    s.run.monitor.timeoutMillis < UInt64.size := by
  obtain ⟨merged, -, loaded⟩ := Option.bind_eq_some_iff.1 loaded
  obtain ⟨value, -, read⟩ := Option.bind_eq_some_iff.1 loaded
  unfold BenchSettings.ofJson? at read
  split at read
  · obtain ⟨_, -, read⟩ := Option.bind_eq_some_iff.1 read
    obtain ⟨_, -, read⟩ := Option.bind_eq_some_iff.1 read
    obtain ⟨_, -, read⟩ := Option.bind_eq_some_iff.1 read
    obtain ⟨_, -, read⟩ := Option.bind_eq_some_iff.1 read
    obtain ⟨monitor, given, read⟩ := Option.bind_eq_some_iff.1 read
    obtain ⟨_, -, read⟩ := Option.bind_eq_some_iff.1 read
    obtain ⟨_, -, read⟩ := Option.bind_eq_some_iff.1 read
    obtain ⟨_, -, read⟩ := Option.bind_eq_some_iff.1 read
    obtain ⟨_, -, read⟩ := Option.bind_eq_some_iff.1 read
    obtain ⟨_, -, read⟩ := Option.bind_eq_some_iff.1 read
    cases read
    exact Json.Slot.orDefault_of (P := fun m => m.timeoutMillis < UInt64.size) (by decide)
      (fun _ _ => MonitorSettings.timeoutMillis_lt) given
  · cases read

namespace CommandLine

variable {s : BenchSettings} {delay now later elapsed : Duration} {byte sentinel : UInt8}
  {w v : RunWorld}

/-- The time after which a run on no device is told of its end. -/
def mockDelay (s : BenchSettings) : Duration :=
  Duration.ofMillis (max s.completion.mockDelayMillis 1)

theorem le_mockDelay (s : BenchSettings) : Duration.ofMillis 1 ≤ mockDelay s :=
  Nat.mul_le_mul_right _ (Nat.le_max_right s.completion.mockDelayMillis 1)

theorem ofSettings_mock (no_device : s.completion.device = none)
    (mock : s.toolchain.backend = .mock) :
    LineSource.ofSettings s = .ok (.timer (mockDelay s) s.run.monitor.sentinel) := by
  rw [LineSource.ofSettings, no_device, mock]
  rfl

/-- A timer is started at once. -/
theorem open_timer_ends_iff :
    (LineSource.open (.timer delay byte)).Ends now w (.ok ()) later v ↔
      later = now ∧ v = { w with line := .queue (.after now delay byte) } := by
  constructor
  · rintro ⟨⟩
    exact ⟨rfl, rfl⟩
  · rintro ⟨rfl, rfl⟩
    rfl

/-- A queue and a line that has it bring the same. -/
theorem line_alike (e : Surroundings) (s : BenchSettings) (source : LineSource)
    (started : Duration) :
    Channel.Alike (fun q w => w.line = .queue q) started started EventQueue.channel
      (e.collaborators s source).channel := by
  rintro elapsed q ⟨bench, line⟩ rfl
  exact ⟨rfl, rfl⟩

/-- A wait on a timer takes until the first look at which the timer has run out, if there is one. -/
theorem await_timer (e : Surroundings) (s : BenchSettings) (source : LineSource)
    (interval timeout now : Duration) (started : w.line = .queue (.after now delay sentinel)) :
    ∃ v g r, ((Monitor.every interval).await (e.collaborators s source).channel sentinel
        timeout).Ends now w r (now + g) v ∧
      (r = .ok g ∧ IsLeast {g | (Monitor.every interval).OnGrid timeout g ∧ delay ≤ g} g ∨
        timeout < delay ∧ r = .error (.completionTimeout timeout timeout)) := by
  have alike := (Monitor.every interval).watch_alike (line_alike e s source now) sentinel timeout 0
    w started
  rw [EventQueue.after_eq_ofBytes] at alike
  have arrived (g : Duration) :
      EventQueue.Arrived now sentinel [(delay, sentinel)] (now + g) ↔ delay ≤ g :=
    (EventQueue.arrived_cons_of_eq rfl).trans (Nat.add_le_add_iff_left ..)
  obtain ⟨g, left, least, ends⟩ | ⟨absent, left, ends⟩ :=
    (Monitor.every interval).finish?_watch_ofBytes sentinel timeout now now Monitor.onGrid_zero
      [(delay, sentinel)]
  · obtain ⟨v, ends, -⟩ := alike.finish ends now
    refine ⟨v, g, _, ends, .inl ⟨rfl, ?_⟩⟩
    simpa [arrived] using least
  · obtain ⟨v, ends, -⟩ := alike.finish ends now
    rw [arrived, Nat.not_le] at absent
    exact ⟨v, timeout, _, ends, .inr ⟨absent, rfl⟩⟩

/-- The pipeline of a run that is asked for. -/
abbrev Surroundings.pipeline (e : Surroundings) (s : BenchSettings) (source : LineSource) :
    Pipeline RunWorld :=
  ⟨s.run, e.collaborators s source, e.epoch⟩

theorem runStages_ends_iff {e : Surroundings} {source : LineSource} {program : Program}
    {files left : FileSystem} {r : Except RunFailure CompletedRun} :
    (e.runStages s source program).Ends now files r later left ↔
      ∃ w, ((e.pipeline s source).run (RunId.ofEntropy e.entropy) program).Ends now
        ⟨⟨files, .empty⟩, .closed⟩ r later w ∧ w.bench.files = left := by
  unfold Work.Ends Surroundings.runStages
  rw [Activity.finish?_embed, Option.map_eq_some_iff]
  constructor
  · rintro ⟨⟨w, r, t⟩, ends, ⟨⟩⟩
    exact ⟨w, ends, rfl⟩
  · rintro ⟨w, ends, rfl⟩
    exact ⟨_, ends, rfl⟩

/-- A run on no device that gets past its measurement has waited until the first look after the
timer has run out. -/
theorem elapsed_of_timer {e : Surroundings} {program : Program} {files left : FileSystem}
    {r : Except RunFailure CompletedRun}
    (ends : (e.runStages s (.timer delay s.run.monitor.sentinel) program).Ends now files r later
      left) (passed : Passed .measure r) :
    ∃ elapsed, elapsedOf r = some elapsed ∧
      IsLeast {g | (Monitor.every s.run.monitor.pollInterval).OnGrid s.run.monitor.timeout g ∧
        delay ≤ g} elapsed := by
  obtain ⟨w, ran, rfl⟩ := runStages_ends_iff.1 ends
  let p := e.pipeline s (.timer delay s.run.monitor.sentinel)
  obtain ⟨elapsed, c, u, measured, ended⟩ := p.measured_of_passed ran passed
  obtain ⟨start, v, ⟨b, t, -, opens⟩, await⟩ := p.wait_of_firstEnd? ended
  obtain ⟨rfl, rfl⟩ := open_timer_ends_iff.1 opens
  obtain ⟨_, g, _, await', outcome⟩ := await_timer e s (.timer delay s.run.monitor.sentinel)
    s.run.monitor.pollInterval s.run.monitor.timeout start (w := { b.world with
      line := .queue (.after start delay s.run.monitor.sentinel) }) rfl
  have same := await.symm.trans await'
  simp only [Option.some.injEq, Prod.mk.injEq] at same
  obtain ⟨-, answer, -⟩ := same
  obtain ⟨known, least⟩ | ⟨-, known⟩ := outcome
  · cases answer.trans known
    exact ⟨elapsed, measured, least⟩
  · cases answer.trans known

/-- **The score fails of an empty time alone, and no timer makes one.** A run that gets through the
analysis is completed, unless its wait has found the sentinel at the very time at which it began, so
that the measured time is zero; it then fails at the score. On no device, with any settings and any
options, the wait is for a timer that runs for a millisecond at least. The measured time is then the
first look at which the timer has run out, and no run fails at the score. Timeouts have 64 bits
here, as they have in all settings that are loaded (`BenchSettings.timeoutMillis_lt`). -/
theorem score_fails_at_once_only :
    (∀ {σ : Type} (p : Pipeline σ), p.settings.monitor.timeoutMillis < UInt64.size →
      ∀ {id program now world r later w}, (p.run id program).Ends now world r later w →
        Passed .analyze r →
        ∃ start v elapsed samples, p.Scored id program now world r start v elapsed samples) ∧
    ∀ (e : Surroundings) (options : RunOptions) {settings : BenchSettings},
      settings.run.monitor.timeoutMillis < UInt64.size →
      ∀ {s}, options.apply settings = s → s.completion.device = none → s.toolchain.backend = .mock →
        LineSource.ofSettings s = .ok (.timer (mockDelay s) s.run.monitor.sentinel) ∧
        Duration.ofMillis 1 ≤ mockDelay s ∧
        ∀ {program now files r later left},
          (e.runStages s (.timer (mockDelay s) s.run.monitor.sentinel) program).Ends now files r
            later left →
          ((∃ run, r = .ok run) ∨ ∃ f, r = .error f ∧ f.stage.index < Stage.score.index) ∧
          (Passed .measure r → ∃ elapsed, elapsedOf r = some elapsed ∧
            IsLeast {g | (Monitor.every s.run.monitor.pollInterval).OnGrid s.run.monitor.timeout g ∧
              mockDelay s ≤ g} elapsed) := by
  refine ⟨fun p short _ _ _ _ _ _ _ ends passed => p.scored_unless_instant short ends passed, ?_⟩
  rintro e options settings short s rfl no_device mock
  refine ⟨ofSettings_mock no_device mock, le_mockDelay _, ?_⟩
  intro program now files r later left ends
  refine ⟨?_, elapsed_of_timer ends⟩
  cases r with
  | ok run => exact .inl ⟨run, rfl⟩
  | error f =>
    refine .inr ⟨f, rfl, Nat.lt_of_not_le fun late => ?_⟩
    let p := e.pipeline (options.apply settings) (.timer (mockDelay (options.apply settings))
      (options.apply settings).run.monitor.sentinel)
    obtain ⟨w, ran, rfl⟩ := runStages_ends_iff.1 ends
    have analyzed : Passed .analyze (.error f) := (p.passed_iff_index_lt ran).2 late
    have measured : Passed .measure (.error f) :=
      (p.passed_iff_index_lt ran).2 (Nat.lt_of_succ_lt late)
    obtain ⟨elapsed, known, least⟩ := elapsed_of_timer ends measured
    obtain ⟨start, v, elapsed', samples, scored⟩ := p.scored_unless_instant short ran analyzed
    cases known.symm.trans scored.measured
    have zero : elapsed = 0 := scored.fails.1 ⟨f, rfl, Stage.eq_score late⟩
    have waited := Nat.le_trans (le_mockDelay _) least.1.2
    rw [zero] at waited
    exact absurd waited (by decide)

/-- Surroundings in which a build does nothing, and does it at once. -/
def idleSurroundings : Surroundings where
  launcher := fun _ => Work.pure (.ok ⟨some 0, "", ""⟩)
  environment := []
  process := 1
  epoch := ⟨0, 0⟩
  entropy := 0

/-- Settings that ask for a timer of no time at all. -/
def noDelay : BenchSettings where
  run := Pipeline.stalled.settings
  toolchain := { buildDir := ⟨"/"⟩ }
  completion := { mockDelayMillis := 0 }

/-- Options that leave all settings as they are. -/
def noOptions : RunOptions where
  benchmark := "halt"
  backend := none
  hardwareDir := none
  device := none
  baudRate := none
  mockCompletion := none
  timeoutSeconds := none
  continueOnBuildFailure := false

open Pipeline (haltProgram haltSource deskFiles deskGateway plainReport stalled settled romFiles)

/-- The pipeline of a run with these settings. -/
abbrev timerPipeline : Pipeline RunWorld :=
  idleSurroundings.pipeline noDelay (.timer (mockDelay noDelay) noDelay.run.monitor.sentinel)

theorem mocked_timerPipeline :
    timerPipeline.OverMock deskGateway (·.bench) fun bench w => { w with bench } where
  gateway := rfl
  get_put _ _ := rfl
  files _ := rfl
  setFiles _ _ := rfl

/-- The wait looks ten milliseconds after its start, when the timer has run out. -/
theorem isLeast_noDelay {g : Duration}
    (h : IsLeast {g | (Monitor.every noDelay.run.monitor.pollInterval).OnGrid
      noDelay.run.monitor.timeout g ∧ mockDelay noDelay ≤ g} g) : g = Duration.ofMillis 10 := by
  have interval : (Monitor.every noDelay.run.monitor.pollInterval).pollInterval =
      Duration.ofMillis 10 := by decide
  have le : g ≤ Duration.ofMillis 10 := h.2 ⟨.inl (by decide), by decide⟩
  obtain ⟨⟨multiple, -⟩ | rfl, delay⟩ := h.1
  · rw [interval] at multiple
    have pos : 0 < g := Nat.lt_of_lt_of_le (by decide) delay
    exact Nat.le_antisymm le (Nat.le_of_dvd pos multiple)
  · exact absurd le (by decide)

theorem called_timerPipeline :
    ∃ answers later w, timerPipeline.Called haltProgram 0
        ⟨⟨deskFiles haltSource plainReport, .empty⟩, .closed⟩ answers later w ∧
      answers.build.succeeded = true ∧ later ≤ noDelay.run.monitor.timeout := by
  have mocked := mocked_timerPipeline
  obtain ⟨w₁, patch, same⟩ := mocked.exists_patchSource
    (w := ⟨⟨deskFiles haltSource plainReport, .empty⟩, .closed⟩)
    (Pipeline.apply_halt (Pipeline.readText_deskFiles haltSource plainReport))
  have build : timerPipeline.buildWork.Ends 0 w₁ (.ok ⟨some 0, "", "", 0⟩) 0 w₁ := rfl
  have writable : plainReport.Written .empty := .file 5 newFileMode
  have start : w₁.bench = ⟨deskFiles haltSource plainReport, .empty⟩ := same
  obtain ⟨bench, artifact, synthesized, -⟩ := Pipeline.synthesize_desk
    (timerPipeline.epoch.later 0) haltSource writable
  rw [← start] at synthesized
  obtain ⟨w₃, w₄, synthesize, flash, rfl⟩ := mocked.exists_synthesize_flash synthesized
  obtain ⟨w₆, g, r, await, outcome⟩ := await_timer idleSurroundings noDelay
    (.timer (mockDelay noDelay) noDelay.run.monitor.sentinel) noDelay.run.monitor.pollInterval
    noDelay.run.monitor.timeout 0 (w := { w₄ with
      line := .queue (.after 0 (mockDelay noDelay) noDelay.run.monitor.sentinel) }) rfl
  obtain ⟨rfl, least⟩ | ⟨late, -⟩ := outcome
  · have analyze := mocked.analyze_ends_iff (w := w₆) |>.2 ⟨rfl, (rfl : 0 + g = 0 + g), rfl⟩
    refine ⟨⟨_, _, artifact, _, g, _⟩, _, _,
      .intro patch build synthesize flash rfl await analyze, rfl, ?_⟩
    exact Nat.le_trans (Nat.le_of_eq (Nat.zero_add g)) least.1.1.le
  · exact absurd late (by decide)

/-- A device that answers as soon as it is asked. -/
theorem called_settled_at_once : settled.Called haltProgram 1 (romFiles, true)
    { Pipeline.settledAnswers with elapsed := 0 } 1 (romFiles, false) := by
  have sent := Pipeline.drain_lateByte settled.settings.monitor.sentinel 1 romFiles
  have await := (Monitor.every settled.settings.monitor.pollInterval).finish?_watch
    settled.parts.channel settled.settings.monitor.sentinel settled.settings.monitor.timeout 1 0
    (romFiles, true)
  have seen : settled.parts.channel.drain settled.settings.monitor.sentinel (1 + 0)
      (romFiles, true) = some ((romFiles, false), .ok true) := sent
  rw [seen] at await
  exact .intro Pipeline.patchSource_settled rfl rfl rfl rfl await rfl

/-- A run at a device that answers at once fails at the score. With settings that ask for no delay,
a run on no device is completed; its timer has run for a millisecond. -/
theorem score_at_once_and_after_no_delay :
    (∃ f v, (settled.run ⟨"r"⟩ haltProgram).Ends 1 (romFiles, true) (.error f) 1 v ∧
      f.stage = .score ∧ elapsedOf (.error f) = some 0) ∧
    ∃ run later left, (idleSurroundings.runStages noDelay (.timer (Duration.ofMillis 1) 68)
        haltProgram).Ends 0 (deskFiles haltSource plainReport) (.ok run) later left ∧
      run.elapsed = Duration.ofMillis 10 := by
  constructor
  · obtain ⟨r, v, ends, passed, measured⟩ :=
      settled.passed_of_called ⟨"r"⟩ called_settled_at_once (fun _ => rfl) (by decide)
    obtain ⟨start, u, elapsed, samples, scored⟩ :=
      score_fails_at_once_only.1 settled (by decide) ends (passed .analyze nofun)
    cases scored.measured.symm.trans measured
    obtain ⟨f, rfl, stage⟩ := scored.fails.2 rfl
    exact ⟨f, v, ends, stage, measured⟩
  · obtain ⟨answers, later, w, called, built, le⟩ := called_timerPipeline
    have in_time : later ≤ 0 + noDelay.run.runLimit := Nat.le_trans le (by decide)
    obtain ⟨r, v, ends, passed, -⟩ := timerPipeline.passed_of_called
      (RunId.ofEntropy idleSurroundings.entropy) called
      (fun failed => absurd (built.symm.trans failed) (by decide)) in_time
    have short : noDelay.run.monitor.timeoutMillis < UInt64.size := by decide
    obtain ⟨-, -, runs⟩ :=
      score_fails_at_once_only.2 idleSurroundings noOptions short (s := noDelay) rfl rfl rfl
    have ran := runStages_ends_iff.2 ⟨v, ends, rfl⟩
    obtain ⟨⟨run, rfl⟩ | ⟨f, rfl, early⟩, waited⟩ := runs ran
    · obtain ⟨elapsed, measured, least⟩ := waited (passed .measure nofun)
      cases measured
      exact ⟨run, later, _, ran, isLeast_noDelay least⟩
    · have late := (timerPipeline.passed_iff_index_lt ends).1 (passed .analyze nofun)
      exact absurd early (Nat.not_lt.2 late)

end CommandLine

end CoreTrial
