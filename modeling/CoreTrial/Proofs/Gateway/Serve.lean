import CoreTrial.Proofs.Gateway.Calls

/-!
# What a request does

Either gateway leaves its memory as it is while a request waits, and notes a success when it answers
it. A request that is rejected is over at once, before any program is started. `Serves` says all
that a request comes to, and `serve_meets` that nothing else can become of one.
-/

set_option autoImplicit false

namespace CoreTrial

namespace Gateway

/-- What a gateway can be asked for. -/
inductive Request where
  | synthesize (sources : List Path) (top part : String)
  | flash (bitstream : Path) (device : Option String)
  | analyze (metric : String)
  | verify (testbench : Path) (kind : SimulationKind)

/-- What a gateway answers. -/
inductive Answer where
  | artifact (artifact : SynthesisArtifact)
  | confirmation (confirmation : FlashConfirmation)
  | report (report : AnalysisReport)
  | verification (report : VerificationReport)

/-- The artifact that was answered, if it was one. -/
def Answer.artifact? : Except ToolError Answer → Option SynthesisArtifact
  | .ok (.artifact a) => some a
  | _ => none

variable {σ : Type}

/-- Does what is asked for. -/
def serve (g : Gateway σ) : Request → Work σ (Except ToolError Answer)
  | .synthesize sources top part => do return (← g.synthesize sources top part).map .artifact
  | .flash bitstream device => do return (← g.flash bitstream device).map .confirmation
  | .analyze metric => do return (← g.analyze metric).map .report
  | .verify testbench kind => do return (← g.verify testbench kind).map .verification

/-- A request that was answered, and the files that were there then. -/
structure Exchange where
  request : Request
  answer : Except ToolError Answer
  files : FileSystem

/-- A success of a synthesis: what it has produced, of which sources, and what its log says. -/
structure Synthesized where
  artifact : SynthesisArtifact
  sources : List Path
  log : String

/-- The answer is of the kind that was asked for. A testbench is reported on as it was named. -/
def Request.Fits : Request → Answer → Prop
  | .synthesize _ top part, .artifact a => a.topModule = top ∧ a.partNumber = part
  | .flash _ _, .confirmation _ => True
  | .analyze _, .report _ => True
  | .verify testbench kind, .verification r => r.testbench = testbench ∧ r.kind = kind
  | _, _ => False

/-- What was answered about a testbench. -/
def Exchange.verification? (x : Exchange) : Option VerificationReport :=
  match x.request, x.answer with
  | .verify _ _, .ok (.verification r) => some r
  | _, _ => none

end Gateway

open Gateway (Exchange Synthesized Request)

namespace ToolchainSettings

variable (s : ToolchainSettings)

/-- What the log of a synthesis says. -/
def synthesisLog (a : SynthesisArtifact) (files : FileSystem) : String :=
  match s.backend with
  | .mock => MockGateway.synthesisLog
  | .vivado => (files.readText a.log).toOption.getD ""

/-- The success of a synthesis, if it is one. -/
def synthesized? (x : Exchange) : Option Synthesized :=
  match x.request, x.answer with
  | .synthesize sources _ _, .ok (.artifact a) => some ⟨a, sources, s.synthesisLog a x.files⟩
  | _, _ => none

/-- The memory once a success has been noted in it. -/
def noted (x : Exchange) (m : GatewayMemory) : GatewayMemory :=
  match s.synthesized? x, x.verification? with
  | some y, _ => m.rememberSynthesis y.artifact y.sources y.log
  | none, some r => m.rememberVerification r
  | none, none => m

end ToolchainSettings

namespace VivadoGateway

variable {g : VivadoGateway} {launcher : Launcher} {now : Duration} {w : Workbench}
  {epoch : Timestamp}

/-- What a synthesis does to the memory. One that is rejected is over before Vivado is started. -/
theorem synthesize_notes (sources : List Path) (top part : String) :
    (g.synthesize launcher epoch sources top part now w).Meets (fun b => b.memory = w.memory)
      fun b r =>
        match r with
        | .ok a => a.topModule = top ∧ a.partNumber = part ∧
          b.memory =
            w.memory.rememberSynthesis a sources ((b.files.readText a.log).toOption.getD "")
        | .error e => b.memory = w.memory ∧ (e.Rejects → ∀ launcher',
          g.synthesize launcher' epoch sources top part now w = .done w (.error e)) := by
  cases missing : sources.find? fun p => !w.files.exists p with
  | some p =>
    rw [synthesize_of_missing missing]
    exact .done ⟨rfl, fun _ launcher' => synthesize_of_missing missing⟩
  | none =>
    rw [synthesize_of_there missing]
    refine .andThen ((meets_onFiles (g.runScript_not_rejects ..)).mono (fun _ h => h) ?_) now
    rintro b (e | log) ⟨memory, other⟩ u
    · exact .done ⟨memory, fun rejects => absurd rejects (other e rfl)⟩
    · refine .done ⟨rfl, rfl, ?_⟩
      rw [← memory]
      rfl

/-- Programming a device leaves the memory as it is. It is rejected only where the bitstream does
not resolve. -/
theorem flash_notes (bitstream : Path) (device : Option String) :
    (g.flash launcher bitstream device now w).Meets (fun b => b.memory = w.memory) fun b r =>
      b.memory = w.memory ∧ ∀ e, r = .error e → e.Rejects →
        w.memory.resolve w.files bitstream = .error e := by
  cases resolves : w.memory.resolve w.files bitstream with
  | error e =>
    rw [flash_of_error resolves]
    exact .done ⟨rfl, fun e' same _ => congrArg _ (Except.error.inj same)⟩
  | ok resolved =>
    rw [flash_of_ok resolves]
    refine .andThen ((meets_onFiles (g.runScript_not_rejects ..)).mono (fun _ h => h) ?_) now
    rintro b (e | log) ⟨memory, other⟩ u
    · refine .done ⟨memory, fun e' same rejects => ?_⟩
      cases same
      exact absurd rejects (other e rfl)
    · refine .done ⟨memory, fun e' same => ?_⟩
      cases same

theorem of_verdict (g : VivadoGateway) (testbench : Path) (kind : SimulationKind)
    (files : FileSystem) (ended : Option (Except IoError ProcessEnd)) :
    match g.verdict testbench kind files ended with
    | .ok v => v.testbench = testbench ∧ v.kind = kind
    | .error e => ¬ e.Rejects := by
  unfold verdict
  cases outcome : g.outcome "verify" ended with
  | ok log =>
    dsimp only
    cases logPasses ((files.readText log).toOption.getD "") with
    | true => exact ⟨rfl, rfl⟩
    | false => exact ⟨rfl, rfl⟩
  | error e =>
    have other := not_rejects_outcome "verify" outcome
    cases e with
    | commandFailed => exact ⟨rfl, rfl⟩
    | _ => exact other

/-- What a testbench does to the memory. One that is not there is rejected before Vivado is
started. -/
theorem verify_notes (testbench : Path) (kind : SimulationKind) :
    (g.verify launcher testbench kind now w).Meets (fun b => b.memory = w.memory) fun b r =>
      match r with
      | .ok v => v.testbench = testbench ∧ v.kind = kind ∧
        b.memory = w.memory.rememberVerification v
      | .error e => b.memory = w.memory ∧ (e.Rejects → ∀ launcher',
        g.verify launcher' testbench kind now w = .done w (.error e)) := by
  cases there : w.files.exists testbench with
  | false =>
    rw [verify_of_missing there]
    exact .done ⟨rfl, fun _ launcher' => verify_of_missing there⟩
  | true =>
    rcases written : g.writeScript "verify.tcl"
      (Script.simulation w.memory.lastSources testbench kind) w.files with ⟨files, cause | path⟩
    · rw [verify_of_unwritten there written]
      exact .done ⟨rfl, False.elim⟩
    · rw [verify_apply there written]
      have unchanged :
          (((launcher (g.launch "verify" path) now files).within g.timeout.onTimer).embed
            fun files => { w with files := files }).Meets (fun b => b.memory = w.memory) fun b _ =>
              b.memory = w.memory :=
        .embed ((Activity.Meets.unknown _).mono (fun _ _ => rfl) fun _ _ _ => rfl)
      refine .andThen (unchanged.mono (fun _ h => h) ?_) now
      intro b ended memory t
      have said := g.of_verdict testbench kind b.files ended
      refine .done ?_
      cases verdict : g.verdict testbench kind b.files ended with
      | ok v =>
        rw [verdict] at said
        refine ⟨said.1, said.2, ?_⟩
        rw [← memory]
        rfl
      | error e =>
        rw [verdict] at said
        exact ⟨memory, fun rejects => absurd rejects said⟩

end VivadoGateway

namespace MockGateway

/-- What a synthesis of placeholders does to the memory. -/
theorem synthesize_notes (g : MockGateway) (createdAt : Timestamp) (sources : List Path)
    (top part : String) (w : Workbench) :
    match g.synthesize createdAt sources top part w with
    | (b, .ok a) => a.topModule = top ∧ a.partNumber = part ∧
      b.memory = w.memory.rememberSynthesis a sources synthesisLog
    | (b, .error e) => b.memory = w.memory ∧ ¬ e.Rejects := by
  unfold synthesize
  cases w.files.makeFolders g.buildDir with
  | error e => exact ⟨rfl, id⟩
  | ok files =>
    dsimp only
    rcases writeFiles (g.outputs top) files with ⟨files', e | u⟩
    · exact ⟨rfl, id⟩
    · exact ⟨rfl, rfl, rfl⟩

end MockGateway

namespace ToolchainSettings

variable {s : ToolchainSettings} {launcher : Launcher} {epoch : Timestamp} {now : Duration}
  {w b : Workbench} {q : Request} {r : Except ToolError Gateway.Answer}

theorem gateway_of_mock (backend : s.backend = .mock) (launcher : Launcher) (epoch : Timestamp) :
    s.gateway launcher epoch = MockGateway.calls ⟨s.buildDir, s.mock⟩ epoch := by
  unfold gateway
  rw [backend]

theorem gateway_of_vivado (backend : s.backend = .vivado) (launcher : Launcher)
    (epoch : Timestamp) :
    s.gateway launcher epoch =
      VivadoGateway.calls ⟨s.buildDir, s.vivado, s.toolTimeout⟩ launcher epoch := by
  unfold gateway
  rw [backend]

/-- A call that fails is not noted. -/
theorem noted_error (q : Request) (e : ToolError) (files : FileSystem) (m : GatewayMemory) :
    s.noted ⟨q, .error e, files⟩ m = m := by
  cases q <;> rfl

/-- What a request comes to. -/
structure Serves (s : ToolchainSettings) (epoch : Timestamp) (q : Request) (now : Duration)
    (w b : Workbench) (r : Except ToolError Gateway.Answer) : Prop where
  memory : b.memory = s.noted ⟨q, r, b.files⟩ w.memory
  fits : ∀ a, r = .ok a → q.Fits a
  /-- A request that is rejected is over at once, and no program has been started for it. -/
  rejected : ∀ e, r = .error e → e.Rejects → ∀ launcher,
    (s.gateway launcher epoch).serve q now w = .done w r

theorem serves_of_error {e : ToolError} (memory : b.memory = w.memory)
    (rejected : e.Rejects → ∀ launcher,
      (s.gateway launcher epoch).serve q now w = .done w (.error e)) :
    s.Serves epoch q now w b (.error e) where
  memory := memory.trans (noted_error q e b.files w.memory).symm
  fits := nofun
  rejected := by
    intro e' same
    cases same
    exact rejected

theorem serves_of_ok {answer : Gateway.Answer}
    (memory : b.memory = s.noted ⟨q, .ok answer, b.files⟩ w.memory) (fits : q.Fits answer) :
    s.Serves epoch q now w b (.ok answer) where
  memory := memory
  fits := by
    intro a same
    cases same
    exact fits
  rejected := nofun

theorem serve_meets_mock (backend : s.backend = .mock) (launcher : Launcher) :
    ((s.gateway launcher epoch).serve q now w).Meets (fun b => b.memory = w.memory)
      (s.Serves epoch q now w) := by
  let g : MockGateway := ⟨s.buildDir, s.mock⟩
  rw [gateway_of_mock backend]
  cases q with
  | synthesize sources top part =>
    have served : (g.calls epoch).serve (.synthesize sources top part) now w =
        .done (g.synthesize (epoch.later now) sources top part w).1
          ((g.synthesize (epoch.later now) sources top part w).2.map .artifact) := rfl
    have notes := g.synthesize_notes (epoch.later now) sources top part w
    rw [served]
    rcases result : g.synthesize (epoch.later now) sources top part w with ⟨b, e | a⟩
    · rw [result] at notes
      exact .done (serves_of_error notes.1 fun rejects => absurd rejects notes.2)
    · rw [result] at notes
      obtain ⟨top_eq, part_eq, memory⟩ := notes
      have log : s.synthesisLog a b.files = MockGateway.synthesisLog := by
        unfold synthesisLog
        rw [backend]
      rw [← log] at memory
      exact .done (serves_of_ok memory ⟨top_eq, part_eq⟩)
  | flash bitstream device =>
    cases resolves : w.memory.resolve w.files bitstream with
    | error e =>
      have served : (g.calls epoch).serve (.flash bitstream device) now w = .done w (.error e) := by
        change Activity.done (MockGateway.flash bitstream device w).1
          ((MockGateway.flash bitstream device w).2.map Gateway.Answer.confirmation) = _
        simp only [MockGateway.flash, resolves]
        rfl
      rw [served]
      refine .done (serves_of_error rfl fun _ launcher => ?_)
      rw [gateway_of_mock backend]
      exact served
    | ok resolved =>
      change Activity.Meets _ _ (.done (MockGateway.flash bitstream device w).1
        ((MockGateway.flash bitstream device w).2.map Gateway.Answer.confirmation))
      simp only [MockGateway.flash, resolves]
      exact .done (serves_of_ok rfl trivial)
  | analyze metric =>
    change Activity.Meets _ _ (.done (g.analyze metric w).1
      ((g.analyze metric w).2.map Gateway.Answer.report))
    unfold MockGateway.analyze
    split
    · exact .done (serves_of_ok rfl trivial)
    · split
      · exact .done (serves_of_ok rfl trivial)
      · exact .done (serves_of_ok rfl trivial)
  | verify testbench kind => exact .done (serves_of_ok rfl ⟨rfl, rfl⟩)

/-- A call that fails at once does so when it is served. -/
theorem serve_of_done {α : Type} {t : Work Workbench (Except ToolError α)} {e : ToolError}
    {f : α → Gateway.Answer} (failed : t now w = .done w (.error e)) :
    (t >>= fun r => pure (r.map f)) now w = .done w (.error e) := by
  rw [Work.bind_apply, failed]
  rfl

theorem serve_meets_vivado (backend : s.backend = .vivado) (launcher : Launcher) :
    ((s.gateway launcher epoch).serve q now w).Meets (fun b => b.memory = w.memory)
      (s.Serves epoch q now w) := by
  let g : VivadoGateway := ⟨s.buildDir, s.vivado, s.toolTimeout⟩
  rw [gateway_of_vivado backend]
  cases q with
  | synthesize sources top part =>
    refine .andThen ((g.synthesize_notes sources top part).mono (fun _ h => h) ?_) now
    rintro b (e | a) notes t
    · refine .done (serves_of_error notes.1 fun rejects launcher => ?_)
      rw [gateway_of_vivado backend]
      exact serve_of_done (notes.2 rejects launcher)
    · obtain ⟨top_eq, part_eq, memory⟩ := notes
      have log : s.synthesisLog a b.files = (b.files.readText a.log).toOption.getD "" := by
        unfold synthesisLog
        rw [backend]
      rw [← log] at memory
      exact .done (serves_of_ok memory ⟨top_eq, part_eq⟩)
  | flash bitstream device =>
    refine .andThen ((g.flash_notes bitstream device).mono (fun _ h => h) ?_) now
    rintro b (e | c) ⟨memory, rejected⟩ t
    · refine .done (serves_of_error memory fun rejects launcher => ?_)
      rw [gateway_of_vivado backend]
      exact serve_of_done (VivadoGateway.flash_of_error (rejected e rfl rejects))
    · exact .done (serves_of_ok memory trivial)
  | analyze metric =>
    change Activity.Meets _ _ (.done (g.analyze metric w).1
      ((g.analyze metric w).2.map Gateway.Answer.report))
    unfold VivadoGateway.analyze
    split
    · exact .done (serves_of_ok rfl trivial)
    · split
      · exact .done (serves_of_ok rfl trivial)
      · exact .done (serves_of_error rfl False.elim)
  | verify testbench kind =>
    refine .andThen ((g.verify_notes testbench kind).mono (fun _ h => h) ?_) now
    rintro b (e | v) notes t
    · refine .done (serves_of_error notes.1 fun rejects launcher => ?_)
      rw [gateway_of_vivado backend]
      exact serve_of_done (notes.2 rejects launcher)
    · obtain ⟨testbench_eq, kind_eq, memory⟩ := notes
      exact .done (serves_of_ok memory ⟨testbench_eq, kind_eq⟩)

/-- While a request waits the memory stays as it is, and its answer is noted at once. -/
theorem serve_meets (s : ToolchainSettings) (launcher : Launcher) (epoch : Timestamp) (q : Request)
    (now : Duration) (w : Workbench) :
    ((s.gateway launcher epoch).serve q now w).Meets (fun b => b.memory = w.memory)
      (s.Serves epoch q now w) := by
  cases backend : s.backend with
  | mock => exact serve_meets_mock backend launcher
  | vivado => exact serve_meets_vivado backend launcher

end ToolchainSettings

end CoreTrial
