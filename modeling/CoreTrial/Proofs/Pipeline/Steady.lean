import CoreTrial.Proofs.Completion.Alike
import CoreTrial.Proofs.Gateway.Resynthesis

/-!
# Pipelines over a mock gateway

What a pipeline is made of besides the mock gateway: a build and a channel. They are steady when
they behave the same on each run, and spare the gateway when the build leaves the source as it is
and all paths of the gateway lead where they led. What the gateway itself does in a run is known
call by call.
-/

set_option autoImplicit false

namespace CoreTrial.Pipeline

variable {σ : Type}

/-- The build of a run. -/
abbrev buildWork (p : Pipeline σ) : Work σ (Except BuildError BuildResult) :=
  p.parts.build p.settings.hardwareDir p.settings.build.command p.settings.build.timeout

/-- The synthesis of a run. -/
abbrev synthesizeWork (p : Pipeline σ) : Work σ (Except ToolError SynthesisArtifact) :=
  p.parts.gateway.synthesize p.settings.hdlPaths p.settings.synthesis.topModule
    p.settings.synthesis.partNumber

/-- The flash of a run. -/
abbrev flashWork (p : Pipeline σ) (bitstream : Path) :
    Work σ (Except ToolError FlashConfirmation) :=
  p.parts.gateway.flash bitstream p.settings.synthesis.deviceId

/-- The wait of a run. -/
abbrev awaitWork (p : Pipeline σ) : Work σ (Except MonitorError Duration) :=
  (Monitor.every p.settings.monitor.pollInterval).await p.parts.channel
    p.settings.monitor.sentinel p.settings.monitor.timeout

/-- The analysis of a run. -/
abbrev analyzeWork (p : Pipeline σ) : Work σ (Except ToolError AnalysisReport) :=
  p.parts.gateway.analyze Metric.utilization.name

/-- The calls that a run of a program makes. -/
inductive Asks (p : Pipeline σ) (program : Program) : {α : Type} → Work σ α → Prop
  | patch : Asks p program (Work.act (p.patchSource program))
  | build : Asks p program p.buildWork
  | synthesize : Asks p program p.synthesizeWork
  | flash (bitstream : Path) : Asks p program (p.flashWork bitstream)
  | opens : Asks p program p.parts.openChannel
  | await : Asks p program p.awaitWork
  | analyze : Asks p program p.analyzeWork

/-- The worlds to which runs of a program come from some world, one call after the other. -/
inductive Visits (p : Pipeline σ) (program : Program) (start : σ) : σ → Prop
  | start : Visits p program start start
  | call {α : Type} {t : Work σ α} {now later : Duration} {w w' : σ} {r : α}
      (there : Visits p program start w) (asked : p.Asks program t)
      (ends : t.Ends now w r later w') : Visits p program start w'

/-- The build and the channel behave the same on each run. -/
structure Steady (p : Pipeline σ) (program : Program) (start : σ) : Prop where
  /-- The same answer after the same time. -/
  build : ∀ {now time w r w'}, p.Visits program start w →
    p.buildWork.Ends now w r (now + time) w' → ∀ now' v, p.Visits program start v →
      ∃ v', p.buildWork.Ends now' v r (now' + time) v'
  /-- It opens alike, and brings the same from then on. -/
  channel : ∀ {now time w w'}, p.Visits program start w →
    p.parts.openChannel.Ends now w (.ok ()) (now + time) w' → ∀ now' v, p.Visits program start v →
      ∃ v' R, p.parts.openChannel.Ends now' v (.ok ()) (now' + time) v' ∧ R w' v' ∧
        Channel.Alike R (now + time) (now' + time) p.parts.channel p.parts.channel

/-- The build leaves the source as it is, and neither the source nor the folder and the outputs of
the gateway are moved by it. The channel leaves all of the workbench alone. -/
structure Spares (p : Pipeline σ) (g : MockGateway) (get : σ → Workbench) (program : Program)
    (start : σ) : Prop where
  paths : ∀ {now w r later w'}, p.Visits program start w → p.buildWork.Ends now w r later w' →
    ∀ q ∈ p.settings.patchTarget.path :: g.paths p.settings.synthesis.topModule,
      (get w).files.Stays (get w').files q
  source : ∀ {now w r later w'}, p.Visits program start w → p.buildWork.Ends now w r later w' →
    (get w').files.readText p.settings.patchTarget.path =
      (get w).files.readText p.settings.patchTarget.path
  opens : ∀ {now w r later w'}, p.parts.openChannel.Ends now w r later w' → get w' = get w
  sample : ∀ now w, get (p.parts.channel.sample now w).1 = get w

/-- The gateway of the pipeline is a mock gateway, and its workbench is a part of the world, with
the files among which the source is patched. -/
structure OverMock (p : Pipeline σ) (g : MockGateway) (get : σ → Workbench)
    (put : Workbench → σ → σ) : Prop where
  gateway : p.parts.gateway = (g.calls p.epoch).on get put
  get_put : ∀ bench w, get (put bench w) = bench
  files : ∀ w, p.parts.files w = (get w).files
  setFiles : ∀ files w, get (p.parts.setFiles files w) = { get w with files }

variable {p : Pipeline σ} {g : MockGateway} {get : σ → Workbench} {put : Workbench → σ → σ}
  {program : Program} {start w w' : σ} {now later : Duration}

/-- What is done at once on a part of the world. -/
theorem ends_on_act_iff {α : Type} {f : Workbench → Workbench × α} {r : α} :
    ((Work.act f).on get put).Ends now w r later w' ↔
      ∃ bench, f (get w) = (bench, r) ∧ later = now ∧ put bench w = w' := by
  refine Work.ends_on_iff.trans (exists_congr fun bench => ?_)
  rw [Work.ends_act_iff, and_assoc]

namespace OverMock

/-- The files of the workbench are patched. -/
theorem patchSource_eq_ok (mocked : p.OverMock g get put) {o : PatchOutcome}
    (patched : p.patchSource program w = (w', .ok o)) :
    Patch.apply (get w).files p.settings.patchTarget
      (Encoding.entries p.settings.patch.encoding program) = .ok ((get w').files, o) := by
  unfold patchSource at patched
  rw [mocked.files] at patched
  dsimp only at patched
  split at patched
  · rename_i files o' applied
    cases patched
    rw [applied, mocked.setFiles]
  · cases patched

/-- A patch that changes no file changes nothing at all. -/
theorem exists_patchSource (mocked : p.OverMock g get put) {o : PatchOutcome}
    (applied : Patch.apply (get w).files p.settings.patchTarget
      (Encoding.entries p.settings.patch.encoding program) = .ok ((get w).files, o)) :
    ∃ w', p.patchSource program w = (w', .ok o) ∧ get w' = get w := by
  refine ⟨p.parts.setFiles (get w).files w, ?_, mocked.setFiles _ _⟩
  unfold patchSource
  rw [mocked.files]
  dsimp only
  rw [applied]

theorem synthesize_ends_iff (mocked : p.OverMock g get put) {sources : List Path}
    {top part : String} {r : Except ToolError SynthesisArtifact} :
    (p.parts.gateway.synthesize sources top part).Ends now w r later w' ↔
      ∃ bench, g.synthesize (p.epoch.later now) sources top part (get w) = (bench, r) ∧
        later = now ∧ put bench w = w' := by
  rw [mocked.gateway]
  exact ends_on_act_iff (f := g.synthesize (p.epoch.later now) sources top part)

/-- A bitstream that was produced is programmed at once, and nothing changes. -/
theorem flash_ends_iff (mocked : p.OverMock g get put) {bitstream : Path} {device : Option String}
    (known : (get w).memory.Knows bitstream) {r : Except ToolError FlashConfirmation} :
    (p.parts.gateway.flash bitstream device).Ends now w r later w' ↔
      r = .ok (MockGateway.confirmation bitstream device) ∧ later = now ∧ put (get w) w = w' := by
  rw [mocked.gateway]
  refine (ends_on_act_iff (f := MockGateway.flash bitstream device)).trans ?_
  rw [MockGateway.flash_of_knows known]
  constructor
  · rintro ⟨_, ⟨⟩, same⟩
    exact ⟨rfl, same⟩
  · rintro ⟨rfl, same⟩
    exact ⟨_, rfl, same⟩

/-- What has been synthesized is what is programmed, at once. -/
theorem synthesize_flash (mocked : p.OverMock g get put) {t : Duration} {v : σ}
    {artifact : SynthesisArtifact} {r : Except ToolError FlashConfirmation}
    (synthesize : p.synthesizeWork.Ends now w (.ok artifact) t v)
    (flash : (p.flashWork artifact.bitstream).Ends t v r later w') :
    g.synthesize (p.epoch.later now) p.settings.hdlPaths p.settings.synthesis.topModule
        p.settings.synthesis.partNumber (get w) = (get w', .ok artifact) ∧
      r = .ok (MockGateway.confirmation artifact.bitstream p.settings.synthesis.deviceId) ∧
      later = now := by
  obtain ⟨bench, answered, rfl, rfl⟩ := mocked.synthesize_ends_iff.1 synthesize
  have known : (get (put bench w)).memory.Knows artifact.bitstream := by
    rw [mocked.get_put]
    exact (MockGateway.synthesize_eq_ok answered).2.1
  obtain ⟨confirmed, rfl, rfl⟩ := (mocked.flash_ends_iff known).1 flash
  rw [mocked.get_put, mocked.get_put]
  exact ⟨answered, confirmed, rfl⟩

theorem exists_synthesize_flash (mocked : p.OverMock g get put) {bench : Workbench}
    {artifact : SynthesisArtifact}
    (answered : g.synthesize (p.epoch.later now) p.settings.hdlPaths
      p.settings.synthesis.topModule p.settings.synthesis.partNumber (get w) =
        (bench, .ok artifact)) :
    ∃ v w', p.synthesizeWork.Ends now w (.ok artifact) now v ∧
      (p.flashWork artifact.bitstream).Ends now v (.ok (MockGateway.confirmation
        artifact.bitstream p.settings.synthesis.deviceId)) now w' ∧ get w' = bench := by
  have known : (get (put bench w)).memory.Knows artifact.bitstream := by
    rw [mocked.get_put]
    exact (MockGateway.synthesize_eq_ok answered).2.1
  refine ⟨put bench w, _, mocked.synthesize_ends_iff.2 ⟨bench, answered, rfl, rfl⟩,
    (mocked.flash_ends_iff known).2 ⟨rfl, rfl, rfl⟩, ?_⟩
  rw [mocked.get_put, mocked.get_put]

theorem analyze_ends_iff (mocked : p.OverMock g get put) {r : Except ToolError AnalysisReport} :
    (p.parts.gateway.analyze Metric.utilization.name).Ends now w r later w' ↔
      r = .ok (.report .utilization (g.utilizationText (get w).files)) ∧ later = now ∧
        put (get w) w = w' := by
  rw [mocked.gateway]
  refine (ends_on_act_iff (f := g.analyze Metric.utilization.name)).trans ?_
  rw [MockGateway.analyze_utilization]
  constructor
  · rintro ⟨_, ⟨⟩, same⟩
    exact ⟨rfl, same⟩
  · rintro ⟨rfl, same⟩
    exact ⟨_, rfl, same⟩

end OverMock

/-- A wait leaves the workbench alone. -/
theorem Spares.await (spares : p.Spares g get program start) {r : Except MonitorError Duration}
    (ends : p.awaitWork.Ends now w r later w') : get w' = get w := by
  -- The wait is like itself, in worlds that have the workbench of `w` throughout.
  have alike : Channel.Alike (fun v v' => v = v' ∧ get v = get w) now now p.parts.channel
      p.parts.channel := by
    rintro elapsed v _ ⟨rfl, same⟩
    exact ⟨rfl, rfl, (spares.sample _ v).trans same⟩
  obtain ⟨time, rfl⟩ := Nat.exists_eq_add_of_le (Activity.le_of_finish? ends)
  obtain ⟨v, -, rfl, same⟩ :=
    (Monitor.watch_alike _ alike _ _ 0 w ⟨rfl, rfl⟩).finish ends now
  exact same

end CoreTrial.Pipeline
