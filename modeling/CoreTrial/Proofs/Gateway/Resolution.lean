import CoreTrial.Proofs.FileSystem.Folders
import CoreTrial.Proofs.Gateway.History
import CoreTrial.Proofs.Pipeline.Completed
import CoreTrial.Proofs.Pipeline.Limit

/-!
# Which bitstream a path stands for

A path stands for itself where it is there or was produced, and otherwise for a produced bitstream
of that file name. What was produced can be programmed from then on, whatever becomes of the files;
so a run, which programs what it has just synthesized, never misses its bitstream.
-/

set_option autoImplicit false

namespace CoreTrial

open Gateway (Exchange)

/-- Paths with the same components have the same file name. -/
theorem Path.fileName?_eq_of_same {p q : Path} (h : p.same q = true) :
    p.fileName? = q.fileName? := by
  unfold fileName?
  rw [same_iff.1 h]

namespace GatewayMemory

/-- What a path stands for at a gateway that has produced some artifacts, among some files. -/
inductive Resolution (made : List SynthesisArtifact) (files : FileSystem) (requested : Path) :
    Except ToolError Path → Prop
  | found (there : files.exists requested = true) : Resolution made files requested (.ok requested)
  | produced (same : ∃ a ∈ made, requested.same a.bitstream = true) :
      Resolution made files requested (.ok requested)
  | named (absent : files.exists requested = false)
      (other : ∀ a ∈ made, requested.same a.bitstream = false) {a : SynthesisArtifact}
      (ha : a ∈ made) (name : a.bitstream.fileName? = some requested.text) :
      Resolution made files requested (.ok a.bitstream)
  | unknown (absent : files.exists requested = false)
      (other : ∀ a ∈ made, requested.same a.bitstream = false)
      (unnamed : ∀ a ∈ made, a.bitstream.fileName? ≠ some requested.text) :
      Resolution made files requested (.error (.artifactNotFound requested))

variable {m : GatewayMemory} {made : List SynthesisArtifact}

theorem any_same_iff {p : Path} : m.produced.any p.same = true ↔ m.Knows p :=
  List.any_eq_true

/-- A memory of exactly these artifacts resolves paths as it should. -/
theorem resolution (mem : ∀ k ∈ m.produced, ∃ a ∈ made, a.bitstream = k)
    (knows : ∀ p, m.Knows p ↔ ∃ a ∈ made, p.same a.bitstream = true) (files : FileSystem)
    (requested : Path) : Resolution made files requested (m.resolve files requested) := by
  unfold resolve
  by_cases there : files.exists requested = true
  · rw [there, Bool.true_or, if_pos rfl]
    exact .found there
  · have absent : files.exists requested = false := by simpa using there
    rw [absent, Bool.false_or]
    by_cases known : m.produced.any requested.same = true
    · rw [if_pos known]
      exact .produced ((knows requested).1 (any_same_iff.1 known))
    · rw [if_neg known]
      have other : ∀ a ∈ made, requested.same a.bitstream = false := by
        intro a ha
        have different := fun same => known (any_same_iff.2 ((knows requested).2 ⟨a, ha, same⟩))
        simpa using different
      cases found : m.produced.find? fun p => p.fileName? == some requested.text with
      | some k =>
        obtain ⟨a, ha, rfl⟩ := mem k (List.mem_of_find?_eq_some found)
        have name : a.bitstream.fileName? = some requested.text := by
          simpa using List.find?_some found
        exact .named absent other ha name
      | none =>
        refine .unknown absent other fun a ha name => ?_
        have itself : a.bitstream.same a.bitstream = true := Path.same_iff.2 rfl
        obtain ⟨k, hk, same⟩ := (knows a.bitstream).2 ⟨a, ha, itself⟩
        have unnamed := List.find?_eq_none.1 found k hk
        rw [← Path.fileName?_eq_of_same same, name] at unnamed
        simp at unnamed

/-- With one artifact, a path that is neither there nor the bitstream can only be its name. -/
theorem Resolution.of_single {a : SynthesisArtifact} {files : FileSystem} {requested : Path}
    {r : Except ToolError Path} (h : Resolution [a] files requested r)
    (absent : files.exists requested ≠ true) (other : requested.same a.bitstream ≠ true) :
    r = if a.bitstream.fileName? = some requested.text then .ok a.bitstream
      else .error (.artifactNotFound requested) := by
  cases h with
  | found there => exact absurd there absent
  | produced same =>
    obtain ⟨a', ha, same⟩ := same
    cases List.mem_singleton.1 ha
    exact absurd same other
  | named _ _ ha name =>
    cases List.mem_singleton.1 ha
    rw [if_pos name]
  | unknown _ _ unnamed => rw [if_neg (unnamed a (List.mem_singleton_self a))]

/-- A path that is known is never missed. -/
theorem resolve_of_knows {p : Path} (h : m.Knows p) (files : FileSystem) :
    m.resolve files p = .ok p := by
  unfold resolve
  rw [any_same_iff.2 h, Bool.or_true, if_pos rfl]

end GatewayMemory

/-- A path that does not resolve is missed at once. No program is started for it, and nothing is
changed. -/
theorem ToolchainSettings.flash_of_unresolved (s : ToolchainSettings) (launcher : Launcher)
    (epoch : Timestamp) {requested : Path} {e : ToolError} {w : Workbench}
    (unresolved : w.memory.resolve w.files requested = .error e) (device : Option String)
    (now : Duration) :
    (s.gateway launcher epoch).flash requested device now w = .done w (.error e) := by
  cases backend : s.backend with
  | mock =>
    rw [gateway_of_mock backend]
    change Activity.done (MockGateway.flash requested device w).1 _ = _
    unfold MockGateway.flash
    rw [unresolved]
  | vivado =>
    rw [gateway_of_vivado backend]
    exact VivadoGateway.flash_of_error unresolved

/-- Only a bitstream that does not resolve is missed. -/
theorem ToolchainSettings.resolve_of_flash (s : ToolchainSettings) (launcher : Launcher)
    (epoch : Timestamp) {bitstream q : Path} {device : Option String} {now later : Duration}
    {w w' : Workbench} (missed : ((s.gateway launcher epoch).flash bitstream device).Ends now w
      (.error (.artifactNotFound q)) later w') :
    w.memory.resolve w.files bitstream = .error (.artifactNotFound q) := by
  cases backend : s.backend with
  | mock =>
    rw [gateway_of_mock backend] at missed
    have answer := (Work.ends_act_iff.1 missed).1
    unfold MockGateway.flash at answer
    cases resolved : w.memory.resolve w.files bitstream with
    | error e =>
      rw [resolved] at answer
      cases answer
      rfl
    | ok resolved' =>
      rw [resolved] at answer
      cases answer
  | vivado =>
    rw [gateway_of_vivado backend] at missed
    exact ((VivadoGateway.flash_notes bitstream device).finish missed).2 _ rfl trivial

namespace Pipeline

variable {σ : Type} (p : Pipeline σ) {program : Program} {now later : Duration} {a b : Attempt σ}

/-- A failure comes from the stage that it names, at work after all stages before it. -/
theorem failed_stage {n : Nat} (hn : n ≤ 7) {f : StageFailure}
    (ends : (p.first program n).run.Ends now a (.error f) later b) :
    ∃ c handed mid, (p.first program f.stage.index).run.Ends now a (.ok handed) mid c ∧
      (p.perform program f.stage.index handed).run.Ends mid c (.error f) later b := by
  induction n with
  | zero => cases ends
  | succ n ih =>
    obtain ⟨e, same, before⟩ | ⟨c, handed, mid, before, last⟩ := p.finish?_first_succ ends
    · cases same
      exact ih (by omega) before
    · obtain ⟨s, rfl⟩ := Stage.exists_index_eq hn
      obtain ⟨rfl, -⟩ := (p.perform_meets program mid c s handed).finish last
      exact ⟨c, handed, mid, before, last⟩

/-- A run fails with one of its stages, by the limit, or for want of an output. -/
theorem stages_of_failed_run {id : RunId} {world w : σ} {f : RunFailure}
    (failed : (p.run id program).Ends now world (.error f) later w) :
    (∃ b : Attempt σ, (p.stages program).run.Ends now (p.outset id program now world)
        (.error ⟨f.stage, f.reason⟩) later b ∧ w = b.world) ∨
      f.reason = .runTimeout p.settings.runTimeout ∨ ∃ stage, f.reason = .missingOutput stage := by
  obtain ⟨b, result, cut, rfl, same⟩ := p.ends_run_iff.1 failed
  match result with
  | none =>
    cases same
    exact .inr (.inl rfl)
  | some (.error e) =>
    cases same
    exact .inl ⟨b, Activity.finish?_of_within cut, rfl⟩
  | some (.ok score) =>
    rw [conclude] at same
    split at same
    · cases same
    · cases same
      exact .inr (.inr ⟨_, rfl⟩)

/-- A run that fails at the flash has tried to program what the run's own synthesis has answered
just before. -/
theorem flash_of_failed_run {id : RunId} {world w : σ} {f : RunFailure} {e : ToolError}
    (failed : (p.run id program).Ends now world (.error f) later w) (stage : f.stage = .flash)
    (reason : f.reason = .tool e) :
    ∃ artifact t₂ w₂ t₃ w₃,
      (p.parts.gateway.synthesize p.settings.hdlPaths p.settings.synthesis.topModule
        p.settings.synthesis.partNumber).Ends t₂ w₂ (.ok artifact) t₃ w₃ ∧
      (p.parts.gateway.flash artifact.bitstream p.settings.synthesis.deviceId).Ends t₃ w₃
        (.error e) later w := by
  obtain ⟨b, ended, rfl⟩ | limit | ⟨missing, want⟩ := p.stages_of_failed_run failed
  · rw [stage, reason, ← first_all] at ended
    obtain ⟨c, artifact, t₃, before, flashed⟩ := p.failed_stage (Nat.le_refl 7) ended
    obtain ⟨_, same, -⟩ | ⟨d, _, t₂, -, synthesized⟩ := p.finish?_first_succ before
    · cases same
    · obtain ⟨synthesize, -⟩ := p.synthesize_ends_iff.1 synthesized
      refine ⟨artifact, t₂, d.world, t₃, c.world, synthesize, ?_⟩
      obtain ⟨_, mid, w', called, rest⟩ | ⟨e', same, first⟩ := Step.ends_bind_iff.1 flashed
      · cases rest
      · obtain ⟨-, ⟨_, other, -⟩ | ⟨e'', same', called⟩⟩ := Step.ends_call_iff.1 first
        · cases other
        · cases same
          cases same'
          exact called
  · rw [limit] at reason
    cases reason
  · rw [want] at reason
    cases reason

end Pipeline

namespace ToolchainSettings

variable (s : ToolchainSettings) (launcher : Launcher) (epoch : Timestamp)

/-- A known bitstream is never missed. -/
theorem flash_of_knows {bitstream : Path} {device : Option String} {now later : Duration}
    {w w' : Workbench} {r : Except ToolError FlashConfirmation} (h : w.memory.Knows bitstream)
    (ends : ((s.gateway launcher epoch).flash bitstream device).Ends now w r later w') (q : Path) :
    r ≠ .error (.artifactNotFound q) := by
  rintro rfl
  have missed := s.resolve_of_flash launcher epoch ends
  rw [GatewayMemory.resolve_of_knows h] at missed
  cases missed

/-- What a synthesis answers is known from then on. -/
theorem knows_of_synthesize {sources : List Path} {top part : String} {now later : Duration}
    {w w' : Workbench} {artifact : SynthesisArtifact}
    (ends : ((s.gateway launcher epoch).synthesize sources top part).Ends now w (.ok artifact)
      later w') : w'.memory.Knows artifact.bitstream := by
  have answered : ((s.gateway launcher epoch).serve (.synthesize sources top part)).Ends now w
      (.ok (.artifact artifact)) later w' :=
    Work.ends_bind_iff.2 ⟨_, _, _, ends, rfl⟩
  obtain ⟨sources', log, memory⟩ :=
    ((s.serve_meets launcher epoch _ now w).finish answered).produced
  rw [memory, GatewayMemory.knows_rememberSynthesis_iff]
  exact .inr (Path.same_iff.2 rfl)

/-- After any requests, a path stands for what it should. -/
theorem resolution_of_account {log : List Exchange} {w : Workbench}
    (account : (s.gateway launcher epoch).Account log w) (requested : Path) :
    GatewayMemory.Resolution (Gateway.artifacts log) w.files requested
      (w.memory.resolve w.files requested) :=
  GatewayMemory.resolution (fun _ hk => account.exists_of_mem_produced hk) account.knows_iff
    w.files requested

/-- **A produced bitstream can always be programmed, and nothing else can.** Whatever was asked of a
gateway and whatever became of the files, a path resolves to itself where it is there or where one
of the answered artifacts has it for its bitstream, and else to such a bitstream of that file name;
all other paths are missed. A path that is missed is not programmed either: this fails at once, no
program is started for it, and nothing is changed. An answered artifact is never missed, and neither
is the artifact of a run. -/
theorem answered_bitstream_resolves :
    (∀ log w, (s.gateway launcher epoch).Account log w →
      (∀ requested, GatewayMemory.Resolution (Gateway.artifacts log) w.files requested
        (w.memory.resolve w.files requested)) ∧
      (∀ requested, (∀ p, w.memory.resolve w.files requested ≠ .ok p) →
        ∀ launcher device now, (s.gateway launcher epoch).flash requested device now w =
          .done w (.error (.artifactNotFound requested))) ∧
      ∀ a ∈ Gateway.artifacts log, ∀ device now r later w',
        ((s.gateway launcher epoch).flash a.bitstream device).Ends now w r later w' →
          ∀ q, r ≠ .error (.artifactNotFound q)) ∧
    ∀ (σ : Type) (p : Pipeline σ) (get : σ → Workbench) (put : Workbench → σ → σ),
      (∀ bench world, get (put bench world) = bench) →
      p.parts.gateway = (s.gateway launcher epoch).on get put →
      ∀ id program now world r later w, (p.run id program).Ends now world r later w →
        ∀ q draft, r ≠ .error ⟨.flash, .tool (.artifactNotFound q), draft⟩ := by
  constructor
  · intro log w account
    refine ⟨s.resolution_of_account launcher epoch account, ?_, ?_⟩
    · intro requested unresolved launcher' device now
      have resolution := s.resolution_of_account launcher epoch account requested
      cases resolves : w.memory.resolve w.files requested with
      | ok p => exact absurd resolves (unresolved p)
      | error e =>
        rw [resolves] at resolution
        cases resolution
        exact s.flash_of_unresolved launcher' epoch resolves device now
    · intro a ha device now r later w' ends
      have known : w.memory.Knows a.bitstream :=
        (account.knows_iff a.bitstream).2 ⟨a, ha, Path.same_iff.2 rfl⟩
      exact s.flash_of_knows launcher epoch known ends
  · rintro σ p get put get_put gateway id program now world _ later w ends q draft rfl
    obtain ⟨artifact, t₂, w₂, t₃, w₃, synthesized, flashed⟩ := p.flash_of_failed_run ends rfl rfl
    rw [gateway] at synthesized flashed
    obtain ⟨bench, synthesis, rfl⟩ := Work.ends_on_iff.1 synthesized
    obtain ⟨bench', flash, -⟩ := Work.ends_on_iff.1 flashed
    rw [get_put] at flash
    have known := s.knows_of_synthesize launcher epoch synthesis
    exact s.flash_of_knows launcher epoch known flash q rfl

end ToolchainSettings

namespace MockGateway

theorem writeFiles_of_flat {files : FileSystem} (flat : files.Flat) {outputs : List (Path × String)}
    (names : ∀ o ∈ outputs, ∃ name, FileSystem.isName o.1 name = true) :
    ∃ files', writeFiles outputs files = (files', .ok ()) := by
  induction outputs generalizing files with
  | nil => exact ⟨files, rfl⟩
  | cons o outputs ih =>
    obtain ⟨name, named⟩ := names o List.mem_cons_self
    obtain ⟨files₁, written, flat₁⟩ := flat.writeText named o.2
    obtain ⟨files₂, rest⟩ := ih flat₁ fun o ho => names o (List.mem_cons_of_mem _ ho)
    refine ⟨files₂, ?_⟩
    rw [writeFiles, written]
    exact rest

/-- A gateway that works in the root folder, where no program can be launched. -/
def inRoot : Gateway Workbench :=
  ({ buildDir := ⟨"/"⟩ } : ToolchainSettings).gateway (fun _ => Work.pure (.error .notFound)) ⟨0, 0⟩

/-- What is produced there for a top module. -/
def topArtifact : SynthesisArtifact where
  bitstream := ⟨"/Top.bit"⟩
  log := ⟨"/synthesis.log"⟩
  topModule := "Top"
  partNumber := "part"
  summary := "Synthesis successful. Bitstream generated at /Top.bit. " ++
    "Log: Synthesis complete. 0 Errors. 5 Warnings."
  createdAt := ⟨0, 0⟩

theorem synthesize_inRoot :
    ∃ w, (inRoot.serve (.synthesize [] "Top" "part")).Ends 0 ⟨.bare, .empty⟩
      (.ok (.artifact topArtifact)) 0 w := by
  have folder : FileSystem.bare.makeFolders ⟨"/"⟩ = .ok .bare := FileSystem.makeFolders_root rfl
  have names : ∀ o ∈ outputs ⟨⟨"/"⟩, {}⟩ "Top", ∃ name, FileSystem.isName o.1 name = true := by
    intro o ho
    simp only [outputs, List.mem_cons, List.not_mem_nil, or_false] at ho
    rcases ho with rfl | rfl | rfl | rfl | rfl
    · exact ⟨"Top.bit", by decide +kernel⟩
    · exact ⟨"synthesis.log", by decide +kernel⟩
    · exact ⟨"post_route_util.rpt", by decide +kernel⟩
    · exact ⟨"post_route_timing.rpt", by decide +kernel⟩
    · exact ⟨"post_route_power.rpt", by decide +kernel⟩
  obtain ⟨files, written⟩ := writeFiles_of_flat FileSystem.flat_bare names
  have synthesized : synthesize ⟨⟨"/"⟩, {}⟩ ⟨0, 0⟩ [] "Top" "part" ⟨.bare, .empty⟩ =
      (⟨files, GatewayMemory.empty.rememberSynthesis topArtifact [] synthesisLog⟩,
        .ok topArtifact) := by
    unfold synthesize
    rw [folder]
    dsimp only
    rw [written]
    have artifact : (⟨bitstreamPath ⟨⟨"/"⟩, {}⟩ "Top", logPath ⟨⟨"/"⟩, {}⟩, "Top", "part",
        "Synthesis successful. Bitstream generated at " ++ (bitstreamPath ⟨⟨"/"⟩, {}⟩ "Top").text
          ++ ". Log: " ++ synthesisLog, ⟨0, 0⟩⟩ : SynthesisArtifact) = topArtifact := by
      decide +kernel
    dsimp only
    rw [artifact]
  have called : (Work.act (synthesize ⟨⟨"/"⟩, {}⟩ ⟨0, 0⟩ [] "Top" "part")).Ends 0
      ⟨.bare, .empty⟩ (.ok topArtifact) 0
      ⟨files, GatewayMemory.empty.rememberSynthesis topArtifact [] synthesisLog⟩ :=
    Work.ends_act_iff.2 ⟨synthesized, rfl⟩
  exact ⟨_, Work.ends_bind_iff.2 ⟨_, _, _, Work.ends_bind_iff.2 ⟨_, _, _, rfl, called⟩, rfl⟩⟩

/-- A pipeline whose world is the workbench of that gateway. -/
def bench : Pipeline Workbench where
  settings := Pipeline.stalled.settings
  parts := {
    files := Workbench.files
    setFiles := fun files w => { w with files }
    build := fun _ _ _ => Work.pure (.ok ⟨some 0, "", "", 0⟩)
    gateway := inRoot.on id fun part _ => part
    openChannel := Work.pure (.ok ())
    channel := { sample := fun _ w => (w, .ok none) } }
  epoch := ⟨0, 0⟩

theorem bench_yields : bench.parts.Yields where
  build _ _ _ := .pure _
  synthesize _ _ _ := fun _ _ => rfl
  flash _ _ := fun _ _ => rfl
  openChannel := .pure _
  channel _ _ := .intro fun _ _ sampled => nomatch sampled
  analyze _ := fun _ _ => rfl

/-- A bitstream is synthesized and its file is deleted with all others. Its name still stands for
it, and it can be programmed; another name stands for nothing, and cannot. -/
theorem deleted_bitstream_resolves :
    ∃ w : Workbench, w.files = .bare ∧
      w.memory.resolve w.files ⟨"Top.bit"⟩ = .ok ⟨"/Top.bit"⟩ ∧
      w.memory.resolve w.files ⟨"Other.bit"⟩ = .error (.artifactNotFound ⟨"Other.bit"⟩) ∧
      inRoot.flash ⟨"Other.bit"⟩ none 0 w = .done w (.error (.artifactNotFound ⟨"Other.bit"⟩)) ∧
      (∃ r later w', (inRoot.flash ⟨"/Top.bit"⟩ none).Ends 0 w r later w' ∧
        ∀ q, r ≠ .error (.artifactNotFound q)) ∧
      ∃ r later w', (bench.run ⟨"r"⟩ Pipeline.haltProgram).Ends 0 w r later w' ∧
        ∀ q draft, r ≠ .error ⟨.flash, .tool (.artifactNotFound q), draft⟩ := by
  obtain ⟨w, answered⟩ := synthesize_inRoot
  obtain ⟨histories, runs⟩ := ToolchainSettings.answered_bitstream_resolves
    { buildDir := ⟨"/"⟩ } (fun _ => Work.pure (.error .notFound)) ⟨0, 0⟩
  obtain ⟨resolution, missed, programmed⟩ :=
    histories _ { w with files := .bare } (.edit (.answered (.start .bare) answered) .bare)
  have missing {q : Path} {name : String} (h : FileSystem.isName q name = true)
      (there : FileSystem.bare.get? [name] = none) : FileSystem.bare.exists q ≠ true := by
    rw [FileSystem.flat_bare.exists_of_isName h, there]
    nofun
  have other : w.memory.resolve .bare ⟨"Other.bit"⟩ =
      .error (.artifactNotFound ⟨"Other.bit"⟩) := by
    have absent := missing (by decide +kernel : FileSystem.isName ⟨"Other.bit"⟩ "Other.bit" = true)
      rfl
    refine (GatewayMemory.Resolution.of_single (a := topArtifact) (resolution ⟨"Other.bit"⟩) absent
      (by decide +kernel)).trans (if_neg ?_)
    decide +kernel
  refine ⟨{ w with files := .bare }, rfl, ?_, other, ?_, ?_, ?_⟩
  · have absent := missing (by decide +kernel : FileSystem.isName ⟨"Top.bit"⟩ "Top.bit" = true) rfl
    refine (GatewayMemory.Resolution.of_single (a := topArtifact) (resolution ⟨"Top.bit"⟩) absent
      (by decide +kernel)).trans (if_pos ?_)
    decide +kernel
  · refine missed ⟨"Other.bit"⟩ (fun p same => ?_) _ none 0
    cases other.symm.trans same
  · have flash : ∃ r w', (inRoot.flash ⟨"/Top.bit"⟩ none).Ends 0 { w with files := .bare } r 0 w' :=
      ⟨_, _, rfl⟩
    obtain ⟨r, w', ends⟩ := flash
    exact ⟨r, 0, w', ends, programmed topArtifact List.mem_cons_self none 0 r 0 w' ends⟩
  · obtain ⟨r, later, w', ends⟩ := Pipeline.exists_ends_run bench_yields ⟨"r"⟩
      Pipeline.haltProgram 0 { w with files := .bare }
    exact ⟨r, later, w', ends, runs Workbench bench id (fun part _ => part) (fun _ _ => rfl) rfl
      _ _ _ _ _ _ _ ends⟩

end MockGateway

end CoreTrial
