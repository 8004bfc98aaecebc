import CoreTrial.Json.Reader
import CoreTrial.Proofs.Json.Record
import CoreTrial.Proofs.Time.Timestamp
import CoreTrial.Storage

/-!
# Records of runs are read back

What is stored of a run is read back as it was, but that the duration of its build and its elapsed
time are in whole milliseconds. The status of a gateway, and what a gateway reports, are read back
without any loss. A record with a path that is no text cannot be stored.
-/

set_option autoImplicit false

namespace CoreTrial

open Json

theorem Path.ofJson?_toJson (p : Path) : ofJson? p.toJson = some p := rfl

theorem RunId.ofJson?_toJson (id : RunId) : ofJson? id.toJson = some id := rfl

theorem Timestamp.ofJson?_toJson {t : Timestamp} (valid : t.Valid) :
    ofJson? t.toJson = some t := by
  unfold ofJson? toJson
  rw [string?, Option.bind_some]
  exact read?_toText valid

theorem Stage.ofJson?_toJson (s : Stage) : ofJson? s.toJson = some s := by
  cases s <;> rfl

theorem StageStatus.ofJson?_toJson (s : StageStatus) : ofJson? s.toJson = some s := by
  cases s <;> rfl

theorem Metric.ofJson?_toJson (m : Metric) : ofJson? m.toJson = some m := by
  cases m <;> rfl

theorem SimulationKind.ofJson?_toJson (k : SimulationKind) : ofJson? k.toJson = some k := by
  cases k <;> rfl

theorem Instruction.ofJson?_toJson (i : Instruction) : ofJson? i.toJson = some i := by
  have slots : slots? ["word", "comment"] i.toJson =
      some [.given (.nat i.word.toNat), .given (.string i.comment)] := slots?_object (by simp)
  unfold ofJson?
  rw [slots]
  dsimp only [Slot.required]
  rw [word32?_nat]
  rfl

theorem Program.ofJson?_toJson (p : Program) : ofJson? p.toJson = some p := by
  have slots : slots? ["name", "instructions"] p.toJson =
      some [.given (.string p.name), .given (.array (p.instructions.map (·.toJson)))] :=
    slots?_object (by simp)
  unfold ofJson?
  rw [slots]
  dsimp only [Slot.required]
  rw [list?_array fun i _ => Instruction.ofJson?_toJson i]
  simp only [string?, Option.bind_eq_bind, Option.bind_some, make, dif_pos p.terminated]
  rfl

theorem SynthesisArtifact.ofJson?_toJson {a : SynthesisArtifact} (valid : a.createdAt.Valid) :
    ofJson? a.toJson = some a := by
  have slots : slots? ["bitstream", "log", "top_module", "part_number", "summary", "created_at"]
      a.toJson = some [.given a.bitstream.toJson, .given a.log.toJson, .given (.string a.topModule),
        .given (.string a.partNumber), .given (.string a.summary), .given a.createdAt.toJson] :=
    slots?_object (by simp)
  unfold ofJson?
  rw [slots]
  dsimp only [Slot.required]
  rw [Timestamp.ofJson?_toJson valid]
  rfl

theorem FlashConfirmation.ofJson?_toJson (c : FlashConfirmation) :
    ofJson? c.toJson = some c := by
  have slots : slots? ["bitstream", "device_id", "message"] c.toJson =
      some [.given c.bitstream.toJson, .given (.string c.deviceId), .given (.string c.message)] :=
    slots?_object (by simp)
  unfold ofJson?
  rw [slots]
  rfl

theorem Utilization.Report.ofJson?_toJson (r : Utilization.Report) :
    ofJson? r.toJson = some r := by
  have slots : slots? ["raw", "resources"] r.toJson =
      some [.given (.string r.raw), .given (ofMap (fun n => .nat n.toNat) r.resources)] :=
    slots?_object (by simp)
  unfold ofJson?
  rw [slots]
  dsimp only [Slot.required]
  rw [map?_ofMap word32?_nat]
  rfl

theorem StageOutcome.ofJson?_toJson {o : StageOutcome} (valid : o.recordedAt.Valid) :
    ofJson? o.toJson = some o := by
  have slots : slots? ["stage", "status", "detail", "recorded_at"] o.toJson =
      some [.given o.stage.toJson, .given o.status.toJson, .given (.string o.detail),
        .given o.recordedAt.toJson] := slots?_object (by simp)
  unfold ofJson?
  rw [slots]
  dsimp only [Slot.required]
  rw [Stage.ofJson?_toJson, StageStatus.ofJson?_toJson, Timestamp.ofJson?_toJson valid]
  rfl

/-- A duration as it is stored: whole milliseconds. -/
def Duration.stored (d : Duration) : Duration := ofMillis d.millis

theorem Duration.millis_stored (d : Duration) : d.stored.millis = d.millis :=
  millis_ofMillis d.millis

/-- A result as it is stored. -/
def BuildResult.stored (r : BuildResult) : BuildResult :=
  { r with duration := r.duration.stored }

theorem BuildResult.toJson_stored (r : BuildResult) : r.stored.toJson = r.toJson := by
  unfold toJson stored
  rw [Duration.millis_stored]

theorem BuildResult.ofJson?_toJson {r : BuildResult} (short : r.duration.millis < 2 ^ 64) :
    ofJson? r.toJson = some r.stored := by
  have slots : slots? ["exit_code", "stdout", "stderr", "duration"] r.toJson =
      some [.given (ofOption (fun c => .int c.toInt) r.exitCode), .given (.string r.stdout),
        .given (.string r.stderr), .given (.nat r.duration.millis)] := slots?_object (by simp)
  have code := optional_ofOption_self (fun c => .int c.toInt) r.exitCode (fun _ => nofun)
    fun c _ => signed32?_int c
  unfold ofJson?
  rw [slots]
  dsimp only
  rw [code]
  dsimp only [Slot.required]
  rw [word64?_nat short]
  rfl

theorem VerificationReport.ofJson?_toJson (r : VerificationReport) :
    ofJson? r.toJson = some r := by
  have slots : slots? ["testbench", "kind", "passed", "summary"] r.toJson =
      some [.given r.testbench.toJson, .given r.kind.toJson, .given (.bool r.passed),
        .given (.string r.summary)] := slots?_object (by simp)
  unfold ofJson?
  rw [slots]
  dsimp only [Slot.required]
  rw [SimulationKind.ofJson?_toJson]
  rfl

theorem AnalysisReport.ofJson?_toJson (r : AnalysisReport) : ofJson? r.toJson = some r := by
  cases r with
  | report metric text =>
    have slots : slots? ["metric", "text"]
        (.object [("metric", metric.toJson), ("text", .string text)]) =
          some [.given metric.toJson, .given (.string text)] := slots?_object (by simp)
    rw [toJson, ofJson?.eq_1, slots]
    dsimp only [Slot.required]
    rw [Metric.ofJson?_toJson]
    rfl
  | unknownMetric name => rfl

theorem GatewayStatus.ofJson?_toJson (s : GatewayStatus) : ofJson? s.toJson = some s := by
  have slots : slots? ["backend", "last_bitstream", "last_synthesis_log", "verification_results"]
      s.toJson = some [.given (.string s.backend), .given (ofOption Path.toJson s.lastBitstream),
        .given (ofOption .string s.lastSynthesisLog),
        .given (ofMap VerificationReport.toJson s.verifications)] := slots?_object (by simp)
  have bitstream := optional_ofOption_self Path.toJson s.lastBitstream (fun _ => nofun) fun p _ =>
    Path.ofJson?_toJson p
  have log := optional_ofOption_self .string s.lastSynthesisLog (fun _ => nofun) fun text _ =>
    (rfl : string? (.string text) = some text)
  unfold ofJson?
  rw [slots]
  dsimp only
  rw [bitstream, log]
  dsimp only [Slot.required]
  rw [map?_ofMap VerificationReport.ofJson?_toJson]
  rfl

namespace Draft

variable {π : Type}

/-- A draft as it is stored. -/
def stored (d : Draft π) : Draft π :=
  { d with build := d.build.map BuildResult.stored, elapsed := d.elapsed.map Duration.stored }

/-- A draft that can be stored: all its instants are ones that the calendar holds, and its durations
have less than 2^64 milliseconds. -/
structure Storable (d : Draft π) : Prop where
  started : d.startedAt.Valid
  built : ∀ r, d.build = some r → r.duration.millis < 2 ^ 64
  created : ∀ a, d.artifact = some a → a.createdAt.Valid
  elapsed : ∀ t, d.elapsed = some t → Duration.millis t < 2 ^ 64
  recorded : ∀ o ∈ d.stages, o.recordedAt.Valid

variable {d : Draft}

theorem toJson_stored (d : Draft) : d.stored.toJson = d.toJson := by
  have build : ofOption BuildResult.toJson (d.build.map BuildResult.stored) =
      ofOption BuildResult.toJson d.build := by
    cases d.build with
    | none => rfl
    | some r => exact r.toJson_stored
  have elapsed : ofOption (fun t => .nat (Duration.millis t)) (d.elapsed.map Duration.stored) =
      ofOption (fun t => .nat (Duration.millis t)) d.elapsed := by
    cases d.elapsed with
    | none => rfl
    | some t => exact congrArg Json.nat (Duration.millis_stored t)
  unfold toJson stored
  rw [build, elapsed]

theorem optionalOrNone_elapsed {o : Option Duration}
    (short : ∀ t, o = some t → Duration.millis t < 2 ^ 64) :
    (Slot.given (ofOption (fun t => .nat (Duration.millis t)) o)).optionalOrNone word64? =
      some (o.map Duration.millis) := by
  cases o with
  | none => rfl
  | some t =>
    have read := word64?_nat (short t rfl)
    have given : (Slot.given (.nat (Duration.millis t))).optionalOrNone word64? =
        (word64? (.nat (Duration.millis t))).map some := rfl
    rw [ofOption, given, read]
    rfl

/-- A draft is read back as it is stored. -/
theorem ofJson?_toJson (storable : d.Storable) : ofJson? d.toJson = some d.stored := by
  have slots : slots? ["id", "program", "started_at", "build", "artifact", "flash", "elapsed",
      "utilization", "stages"] d.toJson = some [.given d.id.toJson, .given d.program.toJson,
        .given d.startedAt.toJson, .given (ofOption BuildResult.toJson d.build),
        .given (ofOption SynthesisArtifact.toJson d.artifact),
        .given (ofOption FlashConfirmation.toJson d.flash),
        .given (ofOption (fun t => .nat (Duration.millis t)) d.elapsed),
        .given (ofOption Utilization.Report.toJson d.utilization),
        .given (.array (d.stages.map StageOutcome.toJson))] := slots?_object (by simp)
  have build := optional_ofOption BuildResult.toJson BuildResult.stored d.build (fun _ => nofun)
    fun r h => BuildResult.ofJson?_toJson (storable.built r h)
  have artifact := optional_ofOption_self SynthesisArtifact.toJson d.artifact (fun _ => nofun)
    fun a h => SynthesisArtifact.ofJson?_toJson (storable.created a h)
  have flash := optional_ofOption_self FlashConfirmation.toJson d.flash (fun _ => nofun) fun c _ =>
    FlashConfirmation.ofJson?_toJson c
  have utilization := optional_ofOption_self Utilization.Report.toJson d.utilization
    (fun _ => nofun) fun r _ => Utilization.Report.ofJson?_toJson r
  have stages := list?_array fun o mem => StageOutcome.ofJson?_toJson (storable.recorded o mem)
  unfold ofJson?
  rw [slots]
  dsimp only
  rw [build, artifact, flash, optionalOrNone_elapsed storable.elapsed, utilization]
  dsimp only [Slot.required]
  rw [Program.ofJson?_toJson, Timestamp.ofJson?_toJson storable.started, stages]
  simp only [RunId.ofJson?_toJson, Option.bind_eq_bind, Option.bind_some, Option.map_map]
  rfl

/-- Whether a draft can be stored so does not depend on its paths. -/
theorem Storable.mapPaths {ρ : Type} {d : Draft π} (f : π → ρ) (storable : d.Storable) :
    (Stored.mapPaths f d).Storable where
  started := storable.started
  built := storable.built
  created a ha := by
    obtain ⟨b, hb, rfl⟩ := Option.map_eq_some_iff.1 ha
    exact storable.created b hb
  elapsed := storable.elapsed
  recorded := storable.recorded

end Draft

namespace OsPath

theorem toOs_toPath {p : OsPath} (text : p.IsText) : p.toPath.toOs = p := by
  have read : String.fromUTF8? p.bytes = some (String.fromUTF8 p.bytes text) := dif_pos text
  unfold toPath Text.decodeLossy
  rw [read]
  rfl

theorem isText_toOs (p : Path) : p.toOs.IsText := p.text.isValidUTF8

theorem toPath_toOs (p : Path) : p.toOs.toPath = p := by
  have same : p.toOs.toPath.text.toByteArray = p.text.toByteArray :=
    congrArg bytes (toOs_toPath (isText_toOs p))
  exact congrArg Path.mk (String.toByteArray_inj.1 same)

end OsPath

/-- A record whose paths are those of the program is written. -/
theorem Stored.write?_toOs {F : Type → Type} [Stored F] (r : F Path) :
    write? (mapPaths Path.toOs r) = some (toJson r) := by
  have text : ∀ p ∈ paths (mapPaths Path.toOs r), p.IsText := by
    rw [paths_mapPaths]
    exact List.forall_mem_map.2 fun p _ => OsPath.isText_toOs p
  rw [write?, if_pos text, mapPaths_mapPaths fun p _ => OsPath.toPath_toOs p]

/-- A record `r` survives storage as `kept`: it is written exactly if all its paths are text, and
then `kept` is read back, of which the same is written. -/
structure Survives {F : Type → Type} [Stored F] (r kept : F OsPath) : Prop where
  written_iff : (Stored.write? r).isSome = true ↔ ∀ p ∈ Stored.paths r, p.IsText
  read_back : ∀ j, Stored.write? r = some j →
    Stored.read? j = some kept ∧ Stored.write? kept = some j

namespace Survives

open Stored OsPath

variable {F : Type → Type} [Stored F] {r kept : F OsPath}

/-- It is enough that the record with its paths as text is read back. -/
theorem of_toPath (same : paths kept = paths r)
    (again : Stored.toJson (mapPaths toPath kept) = Stored.toJson (mapPaths toPath r))
    (back : Stored.ofJson? (Stored.toJson (mapPaths toPath r)) = some (mapPaths toPath kept)) :
    Survives r kept where
  written_iff := by
    unfold write?
    split
    · rename_i text
      exact iff_of_true rfl text
    · rename_i odd
      exact iff_of_false Bool.false_ne_true odd
  read_back j written := by
    unfold write? at written
    split at written
    · rename_i text
      cases written
      rw [← same] at text
      have whole := mapPaths_mapPaths fun p mem => toOs_toPath (text p mem)
      refine ⟨?_, ?_⟩
      · rw [Stored.read?, back, Option.map_some, whole]
      · rw [write?, if_pos text, again]
    · cases written

end Survives

/-- **Records survive storage**, where all their paths are text. What was written of a draft is read
back as the draft with its durations in whole milliseconds; a slot that is absent is absent again,
and the record of what was read is the record that was written. The status of a gateway, the outcome
of a testbench and the answer to a question about a design are read back as they were. A record with
a path that is no text is not written at all. -/
theorem records_survive_storage (d : Draft OsPath) (storable : d.Storable)
    (s : GatewayStatus OsPath) (v : VerificationReport OsPath) (a : AnalysisReport) :
    Survives d d.stored ∧ Survives s s ∧ Survives v v ∧
      AnalysisReport.ofJson? a.toJson = some a := by
  refine ⟨?_, ?_, ?_, a.ofJson?_toJson⟩
  · exact .of_toPath rfl (Draft.toJson_stored (Stored.mapPaths OsPath.toPath d))
      (Draft.ofJson?_toJson (storable.mapPaths _))
  · exact .of_toPath rfl rfl (GatewayStatus.ofJson?_toJson _)
  · exact .of_toPath rfl rfl (VerificationReport.ofJson?_toJson _)

/-- A draft of a program that only halts, with a build and an elapsed time of a second and a half
and one nanosecond more, in which the leap second at the end of 2016 was recorded. -/
def leapDraft : Draft where
  id := ⟨"r"⟩
  program := ⟨"halt", [⟨0x6F, "JAL x0, 0"⟩], by decide⟩
  startedAt := ⟨1483228799, 999999999⟩
  build := some ⟨some (-1), "", "x", 1500000001⟩
  artifact := some {
    bitstream := ⟨"build/Top.bit"⟩
    log := ⟨"build/ü.log"⟩
    topModule := "Top"
    partNumber := "xc7a35t"
    summary := "done"
    createdAt := ⟨1483228799, 1000000000⟩ }
  flash := some ⟨⟨"build/Top.bit"⟩, "default", "Programmed"⟩
  elapsed := some 1500000001
  utilization := some ⟨"LUT: 4%", .ofList [("LUT", 4)]⟩
  stages := [⟨.inject, .warned, "already present", ⟨1483228799, 1500000000⟩⟩]

theorem leapDraft_storable : leapDraft.Storable where
  started := ⟨by decide, by decide, .inl (by decide)⟩
  built := by
    rintro _ ⟨⟩
    decide
  created := by
    rintro _ ⟨⟩
    exact ⟨by decide, by decide, .inr (by decide)⟩
  elapsed := by
    rintro _ ⟨⟩
    decide
  recorded := List.forall_mem_singleton.2 ⟨by decide, by decide, .inr (by decide)⟩

/-- This draft is written, and read back with one and a half second. -/
theorem leapDraft_survives_storage : (Stored.mapPaths Path.toOs leapDraft).Storable ∧
    Stored.write? (Stored.mapPaths Path.toOs leapDraft) = some leapDraft.toJson ∧
      Stored.read? leapDraft.toJson = some (Stored.mapPaths Path.toOs { leapDraft with
        build := some ⟨some (-1), "", "x", 1500000000⟩
        elapsed := some 1500000000 }) := by
  have storable := leapDraft_storable.mapPaths Path.toOs
  have written := Stored.write?_toOs leapDraft
  obtain ⟨survives, -⟩ := records_survive_storage (Stored.mapPaths Path.toOs leapDraft) storable
    ⟨"mock", none, none, .empty⟩ ⟨Path.toOs ⟨"tb"⟩, .behavioral, true, ""⟩
    (.unknownMetric "area")
  exact ⟨storable, written, (survives.read_back _ written).1⟩

/-- The draft with a bitstream whose name, `ED A0 80`, is no text. -/
def oddDraft : Draft OsPath :=
  { Stored.mapPaths Path.toOs leapDraft with
    artifact := some {
      bitstream := ⟨⟨#[0xED, 0xA0, 0x80]⟩⟩
      log := Path.toOs ⟨"build/ü.log"⟩
      topModule := "Top"
      partNumber := "xc7a35t"
      summary := "done"
      createdAt := ⟨1483228799, 1000000000⟩ } }

theorem oddDraft_storable : oddDraft.Storable where
  started := leapDraft_storable.started
  built := leapDraft_storable.built
  created := by
    rintro _ ⟨⟩
    exact ⟨by decide, by decide, .inr (by decide)⟩
  elapsed := leapDraft_storable.elapsed
  recorded := leapDraft_storable.recorded

/-- This draft is not written. Half of a surrogate pair, which is how these bytes would be spelled,
is read as no path. -/
theorem oddDraft_is_not_written : oddDraft.Storable ∧ Stored.write? oddDraft = none ∧
    (Json.read? "\"\\ud800\"").bind Path.ofJson? = none := by
  have odd : ¬ ∀ p ∈ Stored.paths oddDraft, p.IsText := fun text =>
    absurd (text ⟨⟨#[0xED, 0xA0, 0x80]⟩⟩ List.mem_cons_self) (by decide +kernel)
  exact ⟨oddDraft_storable, if_neg odd, by decide +kernel⟩

end CoreTrial
