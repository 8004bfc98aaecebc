import CoreTrial.Proofs.Gateway.Account
import CoreTrial.Proofs.Text.Utf8

/-!
# What a passed testbench says

A testbench is reported as passed exactly if Vivado exited with 0 and its log, as it lies on the
disk by then, holds no failure (`passed_iff_clean`). Only a log of text is searched: one that cannot
be read, or whose bytes are no UTF-8, counts as clean whatever it holds (`garbled_failure_passes`).
-/

set_option autoImplicit false

namespace CoreTrial

open Gateway (Exchange Request)

namespace VivadoGateway

/-- Where Vivado is told to write what it says of a testbench. -/
def verifyLog (g : VivadoGateway) : Path := g.buildDir.child "verify.log"

/-- The log of a testbench holds no failure, as far as it is text. -/
def Clean (g : VivadoGateway) (files : FileSystem) : Prop :=
  ∀ bytes, files.readBytes g.verifyLog = .ok bytes → bytes.IsValidUTF8 →
    ¬ Text.OccursInBytes "FAIL" bytes ∧ ¬ Text.OccursInBytes "ERROR:" bytes

/-- A report of a testbench rests on a run of Vivado that ended and left these files. -/
def RestsOn (g : VivadoGateway) (launcher : Launcher) (r : VerificationReport)
    (files : FileSystem) : Prop :=
  ∃ start began e later,
    (launcher (g.launch "verify" (g.buildDir.child "verify.tcl"))).Ends start began (.ok e) later
      files ∧
    (r.passed = true ↔ e.exitCode = some 0 ∧ g.Clean files)

variable {g : VivadoGateway} {launcher : Launcher} {now later : Duration} {w w' : Workbench}
  {files : FileSystem} {testbench : Path} {kind : SimulationKind} {r : VerificationReport}

/-- A text passes that has none of the marks among its bytes. -/
theorem logPasses_iff (s : String) :
    logPasses s = true ↔
      ¬ Text.OccursInBytes "FAIL" s.toUTF8 ∧ ¬ Text.OccursInBytes "ERROR:" s.toUTF8 := by
  rw [Text.occursInBytes_toUTF8_iff (by decide), Text.occursInBytes_toUTF8_iff (by decide)]
  simp [logPasses]

/-- What cannot be read as text passes. -/
theorem logPasses_readText_iff :
    logPasses ((files.readText g.verifyLog).toOption.getD "") = true ↔ g.Clean files := by
  cases read : files.readText g.verifyLog with
  | ok s =>
    have bytes := FileSystem.readText_eq_ok_iff.1 read
    refine (logPasses_iff s).trans ⟨fun passes bytes' same _ => ?_, fun clean => ?_⟩
    · cases bytes.symm.trans same
      exact passes
    · exact clean _ bytes s.isValidUTF8
  | error e =>
    have nothing : logPasses "" = true := by decide
    refine iff_of_true nothing fun bytes same valid => ?_
    cases read.symm.trans (FileSystem.readText_eq_ok_iff (s := ⟨bytes, valid⟩).2 same)

theorem verdict_of_clean {e : ProcessEnd} (exit : e.succeeded = true) (clean : g.Clean files) :
    g.verdict testbench kind files (some (.ok e)) =
      .ok ⟨testbench, kind, true, "Testbench passed."⟩ := by
  have outcome : g.outcome "verify" (some (.ok e)) = .ok g.verifyLog := if_pos exit
  unfold verdict
  rw [outcome]
  exact if_pos (logPasses_readText_iff.2 clean)

theorem verdict_of_not_clean {e : ProcessEnd} (exit : e.succeeded = true)
    (fails : ¬ g.Clean files) :
    g.verdict testbench kind files (some (.ok e)) =
      .ok ⟨testbench, kind, false, "Testbench reported failures."⟩ := by
  have outcome : g.outcome "verify" (some (.ok e)) = .ok g.verifyLog := if_pos exit
  unfold verdict
  rw [outcome]
  exact if_neg fun passes => fails (logPasses_readText_iff.1 passes)

/-- What is said of a testbench once Vivado has ended. -/
theorem passed_of_verdict {e : ProcessEnd}
    (said : g.verdict testbench kind files (some (.ok e)) = .ok r) :
    r.passed = true ↔ e.exitCode = some 0 ∧ g.Clean files := by
  have zero : e.succeeded = true ↔ e.exitCode = some 0 := by simp [ProcessEnd.succeeded]
  rw [← zero]
  by_cases exit : e.succeeded = true
  · by_cases clean : g.Clean files
    · cases said.symm.trans (verdict_of_clean exit clean)
      exact iff_of_true rfl ⟨exit, clean⟩
    · cases said.symm.trans (verdict_of_not_clean exit clean)
      exact iff_of_false Bool.false_ne_true fun passes => clean passes.2
  · cases said.symm.trans (verdict_of_failed testbench kind files (Bool.eq_false_iff.2 exit))
    exact iff_of_false Bool.false_ne_true fun passes => exit passes.1

/-- Only a run of Vivado that has ended is reported on, and its files are those that are left. -/
theorem restsOn_of_verify
    (ends : (g.verify launcher testbench kind).Ends now w (.ok r) later w') :
    g.RestsOn launcher r w'.files := by
  unfold Work.Ends at ends
  cases there : w.files.exists testbench with
  | false =>
    rw [verify_of_missing there] at ends
    cases ends
  | true =>
    rcases written : g.writeScript "verify.tcl"
      (Script.simulation w.memory.lastSources testbench kind) w.files with ⟨files, cause | path⟩
    · rw [verify_of_unwritten there written] at ends
      cases ends
    · rw [verify_apply there written, Activity.finish?_andThen] at ends
      obtain ⟨⟨b, ended, t⟩, ran, said⟩ := Option.bind_eq_some_iff.1 ends
      rw [Activity.finish?_embed] at ran
      obtain ⟨⟨left, ended', t'⟩, cut, same⟩ := Option.map_eq_some_iff.1 ran
      cases same
      simp only [Activity.finish?, Option.some.injEq, Prod.mk.injEq] at said
      obtain ⟨rfl, verdict, rfl⟩ := said
      rw [verdict]
      cases path_of_writeScript written
      rcases ended with - | e | e
      · cases verdict
      · cases verdict
      · exact ⟨now, files, e, _, Activity.finish?_of_within cut, passed_of_verdict verdict⟩

/-- What was answered about a testbench rests on a run. -/
theorem restsOn_of_verification? {epoch : Timestamp} {q : Request}
    {answer : Except ToolError Gateway.Answer}
    (ends : ((g.calls launcher epoch).serve q).Ends now w answer later w')
    (reported : (⟨q, answer, w'.files⟩ : Exchange).verification? = some r) :
    g.RestsOn launcher r w'.files := by
  unfold Exchange.verification? at reported
  split at reported
  · rename_i testbench kind report request verified
    cases reported
    dsimp only at request verified
    subst request verified
    obtain ⟨v, mid, u, called, rest⟩ := Work.ends_bind_iff.1 ends
    cases v with
    | error e => cases rest
    | ok report =>
      cases rest
      exact restsOn_of_verify called
  · cases reported

end VivadoGateway

namespace ToolchainSettings

variable {s : ToolchainSettings} {launcher : Launcher} {epoch : Timestamp} {log : List Exchange}
  {w : Workbench}

/-- All that was answered about testbenches rests on runs. -/
theorem restsOn_of_account (backend : s.backend = .vivado)
    (account : (s.gateway launcher epoch).Account log w) {x : Exchange} (mem : x ∈ log)
    {r : VerificationReport} (reported : x.verification? = some r) :
    (⟨s.buildDir, s.vivado, s.toolTimeout⟩ : VivadoGateway).RestsOn launcher r x.files := by
  rw [gateway_of_vivado backend] at account
  induction account with
  | start files => cases mem
  | edit _ files ih => exact ih mem
  | answered _ ends ih =>
    rcases List.mem_append.1 mem with before | last
    · exact ih before
    · cases List.mem_singleton.1 last
      exact VivadoGateway.restsOn_of_verification? ends reported
  | dropped _ waits ih => exact ih mem
  | reordered _ perm ih => exact ih mem

/-- What is known of a testbench was answered about it. -/
theorem exists_of_find?_verifications (account : (s.gateway launcher epoch).Account log w)
    {testbench : String} {r : VerificationReport}
    (known : w.memory.verifications.find? testbench = some r) :
    r.testbench.text = testbench ∧ ∃ x ∈ log, x.verification? = some r := by
  rw [(accounts_of_account account).verifications] at known
  obtain ⟨x, mem, found⟩ := List.mem_filterMap.1 (List.mem_of_getLast? known)
  obtain ⟨reported, named⟩ := Option.filter_eq_some_iff.1 found
  exact ⟨by simpa using named, x, mem, reported⟩

/-- **A testbench has passed exactly if Vivado exited with 0 and left a log in which no failure can
be read.** Whatever was asked of a gateway and however Vivado behaves, each report that was answered
rests on a run that ended, with the log as it lies on the disk by then; and each report that is
recorded is one that was answered. -/
theorem passed_iff_clean (s : ToolchainSettings) (backend : s.backend = .vivado)
    (launcher : Launcher) (epoch : Timestamp) {log : List Exchange} {w : Workbench}
    (account : (s.gateway launcher epoch).Account log w) :
    let g : VivadoGateway := ⟨s.buildDir, s.vivado, s.toolTimeout⟩
    (∀ x ∈ log, ∀ r, x.verification? = some r → g.RestsOn launcher r x.files) ∧
      ∀ testbench r,
        (GatewayStatus.ofMemory s.backend.name w.memory).verifications.find? testbench = some r →
          r.testbench.text = testbench ∧ ∃ x ∈ log, x.verification? = some r :=
  ⟨fun _ mem _ reported => restsOn_of_account backend account mem reported,
    fun _ _ known => exists_of_find?_verifications account known⟩

/-- Starts every program, and each leaves these bytes as its log and exits with 0. -/
def logging (bytes : ByteArray) : Launcher :=
  fun _ => Work.act fun files =>
    (files.put ["verify.log"] (.file files.next newFileMode bytes), .ok ⟨some 0, "", ""⟩)

/-- The testbench has passed. -/
def passedReport : VerificationReport :=
  ⟨⟨"tb.v"⟩, .behavioral, true, "Testbench passed."⟩

theorem verify_logging {bytes : ByteArray}
    (clean : bytes.IsValidUTF8 →
      ¬ Text.OccursInBytes "FAIL" bytes ∧ ¬ Text.OccursInBytes "ERROR:" bytes) :
    ∃ w : Workbench, ((inRoot.gateway (logging bytes) ⟨0, 0⟩).serve
        (.verify ⟨"tb.v"⟩ .behavioral)).Ends 0 ⟨testbenchOnly, .empty⟩
          (.ok (.verification passedReport)) 0 w ∧
      w.memory.verifications.find? "tb.v" = some passedReport ∧
      w.files.readBytes ⟨"/verify.log"⟩ = .ok bytes := by
  let run (files : FileSystem) : FileSystem × Except IoError ProcessEnd :=
    (files.put ["verify.log"] (.file files.next newFileMode bytes), .ok ⟨some 0, "", ""⟩)
  have left {files : FileSystem} (flat : files.Flat) :
      (run files).1.readBytes ⟨"/verify.log"⟩ = .ok bytes := by
    have leads := (flat.put_file "verify.log" files.next newFileMode bytes).node?_of_isName
      (by decide +kernel : FileSystem.isName ⟨"/verify.log"⟩ "verify.log" = true)
      (FileSystem.get?_put_self ..)
    rw [FileSystem.readBytes, leads]
  obtain ⟨files, flat, ends⟩ := verify_inRoot run passedReport fun files flat => by
    refine VivadoGateway.verdict_of_clean rfl fun bytes' same valid => ?_
    cases (left flat).symm.trans same
    exact clean valid
  exact ⟨_, ends, rfl, left flat⟩

/-- A run that exits with 0 and leaves a log without a failure has passed. -/
theorem clean_run_passes :
    inRoot.backend = .vivado ∧ ∃ w : Workbench,
      (inRoot.gateway (logging "PASS".toUTF8) ⟨0, 0⟩).Account
        [⟨.verify ⟨"tb.v"⟩ .behavioral, .ok (.verification passedReport), w.files⟩] w ∧
      (⟨inRoot.buildDir, inRoot.vivado, inRoot.toolTimeout⟩ : VivadoGateway).RestsOn
        (logging "PASS".toUTF8) passedReport w.files ∧
      passedReport.passed = true ∧ passedReport.testbench.text = "tb.v" := by
  have passes : VivadoGateway.logPasses "PASS" = true := by decide +kernel
  obtain ⟨w, ends, recorded, -⟩ :=
    verify_logging fun _ => (VivadoGateway.logPasses_iff "PASS").1 passes
  have account : (inRoot.gateway (logging "PASS".toUTF8) ⟨0, 0⟩).Account
      [⟨.verify ⟨"tb.v"⟩ .behavioral, .ok (.verification passedReport), w.files⟩] w :=
    .answered (.start testbenchOnly) ends
  obtain ⟨rests, known⟩ := passed_iff_clean inRoot rfl _ _ account
  exact ⟨rfl, w, account, rests _ List.mem_cons_self _ rfl, rfl, (known _ _ recorded).1⟩

/-- The text `FAIL` and a byte that is no part of any text. -/
def garbledFailure : ByteArray := ⟨#[0x46, 0x41, 0x49, 0x4C, 0xFF]⟩

/-- A testbench is reported and recorded as passed though its log on the disk has `FAIL` in it. -/
theorem garbled_failure_passes :
    ∃ w : Workbench, ((inRoot.gateway (logging garbledFailure) ⟨0, 0⟩).serve
        (.verify ⟨"tb.v"⟩ .behavioral)).Ends 0 ⟨testbenchOnly, .empty⟩
          (.ok (.verification passedReport)) 0 w ∧
      w.memory.verifications.find? "tb.v" = some passedReport ∧
      w.files.readBytes ⟨"/verify.log"⟩ = .ok garbledFailure ∧
      Text.OccursInBytes "FAIL" garbledFailure := by
  have garbled : ¬ garbledFailure.IsValidUTF8 := by decide +kernel
  obtain ⟨w, ends, recorded, left⟩ := verify_logging fun valid => absurd valid garbled
  exact ⟨w, ends, recorded, left, .empty, ⟨#[0xFF]⟩, by decide +kernel⟩

end ToolchainSettings

end CoreTrial
