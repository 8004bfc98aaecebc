import CoreTrial.Gateway.Vivado
import CoreTrial.Proofs.Activity.Embed
import CoreTrial.Proofs.Activity.Meets

/-!
# What a call of Vivado comes to

Each call is checked, writes a script, has Vivado run it and reads what is left. There is one
equation for each way a call can go, so that nothing else has to open a call: one that is rejected,
one whose script cannot be written, and one that Vivado is started for.
-/

set_option autoImplicit false

namespace CoreTrial

/-- The call was refused before anything was done. -/
def ToolError.Rejects : ToolError → Prop
  | .sourceNotFound _ => True
  | .artifactNotFound _ => True
  | _ => False

namespace VivadoGateway

/-- How Vivado is started on a script. -/
def launch (g : VivadoGateway) (operation : String) (script : Path) : Launch :=
  ⟨g.settings.executable, batchArgs (g.buildDir.child (operation ++ ".log")) script, ⟨"."⟩⟩

/-- What comes of a script, once Vivado has ended or its time is up. -/
def outcome (g : VivadoGateway) (operation : String) :
    Option (Except IoError ProcessEnd) → Except ToolError Path
  | none => .error (.timeout operation g.timeout)
  | some (.error e) => .error (.launch g.settings.executable e)
  | some (.ok e) =>
    if e.succeeded then .ok (g.buildDir.child (operation ++ ".log"))
    else .error (.commandFailed g.settings.executable e.exitCode
      (String.intercalate "\n" (e.tail tailLines)))

/-- What is said of a testbench, once Vivado has ended or its time is up. -/
def verdict (g : VivadoGateway) (testbench : Path) (kind : SimulationKind) (files : FileSystem)
    (ended : Option (Except IoError ProcessEnd)) : Except ToolError VerificationReport :=
  match g.outcome "verify" ended with
  | .ok log =>
    if logPasses ((files.readText log).toOption.getD "") then
      .ok ⟨testbench, kind, true, "Testbench passed."⟩
    else .ok ⟨testbench, kind, false, "Testbench reported failures."⟩
  | .error (.commandFailed _ _ tail) => .ok ⟨testbench, kind, false, tail⟩
  | .error e => .error e

/-- The workbench once something has been said of a testbench. -/
def afterVerdict (w : Workbench) : Except ToolError VerificationReport → Workbench
  | .ok r => { w with memory := w.memory.rememberVerification r }
  | .error _ => w

variable {g : VivadoGateway} {launcher : Launcher} {now : Duration} {w : Workbench}
  {files : FileSystem} {path : Path} {name script operation : String}

theorem writeScript_of_ok {fs fs' : FileSystem} (folder : fs.makeFolders g.buildDir = .ok fs')
    (writes : fs'.writeText (g.buildDir.child name) script = .ok files) :
    g.writeScript name script fs = (files, .ok (g.buildDir.child name)) := by
  simp only [writeScript, folder, writes]

theorem path_of_writeScript {fs : FileSystem} {name script : String} {path : Path}
    (written : g.writeScript name script fs = (files, .ok path)) :
    path = g.buildDir.child name := by
  unfold writeScript at written
  split at written
  · cases written
  · split at written
    · cases written
    · cases written
      rfl

/-- A script is written, and then Vivado is started on it. -/
theorem runScript_apply {files' : FileSystem}
    (written : g.writeScript name script files = (files', .ok path)) :
    g.runScript launcher name script operation now files =
      ((launcher (g.launch operation path) now files').within g.timeout.onTimer).andThen now
        fun ended _ files => .done files (g.outcome operation ended) := by
  unfold runScript
  rw [Work.bind_apply]
  simp only [Work.act, written, Activity.andThen]
  rw [Work.bind_apply]
  unfold Work.within
  congr 1
  funext ended t files
  rcases ended with - | e | e
  · rfl
  · rfl
  · unfold outcome
    dsimp only
    split <;> rfl

/-- A script that cannot be written is not run. -/
theorem runScript_of_error {files' : FileSystem} {cause : IoError}
    (written : g.writeScript name script files = (files', .error cause)) :
    g.runScript launcher name script operation now files = .done files' (.error (.io cause)) := by
  unfold runScript
  rw [Work.bind_apply]
  simp only [Work.act, written, Activity.andThen]
  rfl

/-- A script that is run on a workbench changes nothing but files. -/
theorem onFiles_runScript (written : g.writeScript name script w.files = (files, .ok path)) :
    onFiles (g.runScript launcher name script operation) now w =
      (((launcher (g.launch operation path) now files).within g.timeout.onTimer).embed
        fun files => { w with files }).andThen now fun ended _ b =>
          .done b (g.outcome operation ended) := by
  unfold onFiles Work.on
  rw [runScript_apply written]
  exact Activity.embed_andThen _ _ _ now fun ended t files => rfl

/-- Work on the files leaves the memory as it is. -/
theorem meets_onFiles {α : Type} {t : Work FileSystem α} {after : α → Prop}
    (h : (t now w.files).Meets (fun _ => True) fun _ r => after r) :
    (onFiles t now w).Meets (fun b => b.memory = w.memory) fun b r =>
      b.memory = w.memory ∧ after r :=
  .embed (h.mono (fun _ _ => rfl) fun _ _ h => ⟨rfl, h⟩)

/-- A testbench that is there is simulated on the sources that are remembered. -/
theorem verify_apply {testbench : Path} {kind : SimulationKind}
    (there : w.files.exists testbench = true)
    (written : g.writeScript "verify.tcl" (Script.simulation w.memory.lastSources testbench kind)
      w.files = (files, .ok path)) :
    g.verify launcher testbench kind now w =
      (((launcher (g.launch "verify" path) now files).within g.timeout.onTimer).embed
        fun files => { w with files }).andThen now fun ended _ b =>
          let r := g.verdict testbench kind b.files ended
          .done (afterVerdict b r) r := by
  have found : [testbench].find? (fun p => !w.files.exists p) = none := by simp [there]
  unfold verify missingSource?
  rw [Work.bind_apply]
  simp only [Work.bind_apply, Work.look, Activity.andThen, found]
  change Activity.andThen now _ (onFiles _ now w) = _
  rw [onFiles_runScript written]
  refine (Activity.andThen_assoc _ now _ _).trans ?_
  congr 1
  funext ended t b
  unfold verdict
  cases g.outcome "verify" ended with
  | ok log =>
    let text := (b.files.readText log).toOption.getD ""
    change (if logPasses text then verify.report testbench kind true "Testbench passed."
      else verify.report testbench kind false "Testbench reported failures.") t b = _
    by_cases passes : logPasses text = true
    · simp only [text, if_pos passes]
      rfl
    · simp only [text, if_neg passes]
      rfl
  | error e => cases e <;> rfl

/-- A testbench that is not there is not simulated. -/
theorem verify_of_missing {testbench : Path} {kind : SimulationKind}
    (missing : w.files.exists testbench = false) :
    g.verify launcher testbench kind now w = .done w (.error (.sourceNotFound testbench)) := by
  have found : [testbench].find? (fun p => !w.files.exists p) = some testbench := by simp [missing]
  unfold verify missingSource?
  simp only [Work.bind_apply, Work.look, Activity.andThen, found]
  rfl

/-- A testbench whose script cannot be written is not simulated. -/
theorem verify_of_unwritten {testbench : Path} {kind : SimulationKind} {cause : IoError}
    (there : w.files.exists testbench = true)
    (written : g.writeScript "verify.tcl" (Script.simulation w.memory.lastSources testbench kind)
      w.files = (files, .error cause)) :
    g.verify launcher testbench kind now w =
      .done { w with files := files } (.error (.io cause)) := by
  have found : [testbench].find? (fun p => !w.files.exists p) = none := by simp [there]
  unfold verify missingSource?
  simp only [Work.bind_apply, Work.look, Activity.andThen, found]
  change Activity.andThen now _ (onFiles _ now w) = _
  unfold onFiles Work.on
  rw [runScript_of_error written]
  rfl

/-- A run of Vivado that fails is a report that the testbench has failed. -/
theorem verdict_of_failed (testbench : Path) (kind : SimulationKind) (files : FileSystem)
    {e : ProcessEnd} (failed : e.succeeded = false) :
    g.verdict testbench kind files (some (.ok e)) =
      .ok ⟨testbench, kind, false, String.intercalate "\n" (e.tail tailLines)⟩ := by
  simp [verdict, outcome, failed]

theorem not_rejects_outcome (operation : String) {ended : Option (Except IoError ProcessEnd)}
    {e : ToolError} (h : g.outcome operation ended = .error e) : ¬ e.Rejects := by
  rcases ended with - | cause | ended
  · cases h
    exact id
  · cases h
    exact id
  · unfold outcome at h
    dsimp only at h
    split at h
    · cases h
    · cases h
      exact id

/-- A script that fails does so for other reasons than that something is not there. -/
theorem runScript_not_rejects (g : VivadoGateway) (launcher : Launcher)
    (name script operation : String) (now : Duration) (files : FileSystem) :
    (g.runScript launcher name script operation now files).Meets (fun _ => True) fun _ r =>
      ∀ e, r = .error e → ¬ e.Rejects := by
  rcases written : g.writeScript name script files with ⟨files', cause | path⟩
  · rw [runScript_of_error written]
    refine .done fun e same => ?_
    cases same
    exact id
  · rw [runScript_apply written]
    refine .andThen ((Activity.Meets.unknown _).mono (fun _ h => h) ?_) now
    intro files'' ended _ t
    exact .done fun e same => not_rejects_outcome operation same

variable {epoch : Timestamp}

/-- What a synthesis answers. -/
def artifactOf (g : VivadoGateway) (top part : String) (log : Path) (createdAt : Timestamp) :
    SynthesisArtifact where
  bitstream := g.buildDir.child (top ++ ".bit")
  log := log
  topModule := top
  partNumber := part
  summary := "Synthesis successful. Bitstream generated at " ++
    (g.buildDir.child (top ++ ".bit")).text
  createdAt := createdAt

/-- A design that lacks a source is not synthesized. -/
theorem synthesize_of_missing {sources : List Path} {top part : String} {p : Path}
    (missing : sources.find? (fun p => !w.files.exists p) = some p) :
    g.synthesize launcher epoch sources top part now w = .done w (.error (.sourceNotFound p)) := by
  unfold synthesize missingSource?
  simp only [Work.bind_apply, Work.look, Activity.andThen, missing]
  rfl

/-- A design whose sources are there is synthesized by a script, and its artifact is remembered. -/
theorem synthesize_of_there {sources : List Path} {top part : String}
    (there : sources.find? (fun p => !w.files.exists p) = none) :
    g.synthesize launcher epoch sources top part now w =
      (onFiles (g.runScript launcher "synthesize.tcl" (Script.synthesis sources top part g.buildDir
        (g.buildDir.child (top ++ ".bit"))) "synthesize") now w).andThen now fun r t b =>
          match r with
          | .error e => .done b (.error e)
          | .ok log =>
            let a := g.artifactOf top part log (epoch.later t)
            let text := (b.files.readText log).toOption.getD ""
            .done { b with memory := b.memory.rememberSynthesis a sources text } (.ok a) := by
  unfold synthesize missingSource?
  simp only [Work.bind_apply, Work.look, Activity.andThen, there]
  change Activity.andThen now _ (onFiles _ now w) = _
  congr 1
  funext r t b
  cases r <;> rfl

/-- A bitstream that does not resolve is not programmed. -/
theorem flash_of_error {bitstream : Path} {device : Option String} {e : ToolError}
    (resolves : w.memory.resolve w.files bitstream = .error e) :
    g.flash launcher bitstream device now w = .done w (.error e) := by
  unfold flash
  simp only [Work.bind_apply, Work.look, Activity.andThen, resolves]
  rfl

/-- A device is programmed by a script, which is all that is done to the files. -/
theorem flash_of_ok {bitstream resolved : Path} {device : Option String}
    (resolves : w.memory.resolve w.files bitstream = .ok resolved) :
    g.flash launcher bitstream device now w =
      (onFiles (g.runScript launcher "flash.tcl"
        (Script.program resolved device g.settings.hwServerUrl) "flash") now w).andThen now
          fun r _ b =>
            let device := device.getD FlashConfirmation.defaultDevice
            .done b (r.map fun _ => {
              bitstream := resolved
              deviceId := device
              message := "Device " ++ device ++ " successfully flashed with " ++ resolved.text
                ++ "." }) := by
  unfold flash
  simp only [Work.bind_apply, Work.look, Activity.andThen, resolves]
  congr 1
  funext r t b
  cases r <;> rfl

end VivadoGateway

end CoreTrial
