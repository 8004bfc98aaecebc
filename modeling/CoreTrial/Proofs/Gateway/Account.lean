import CoreTrial.Proofs.FileSystem.Folders
import CoreTrial.Proofs.Gateway.History
import CoreTrial.Proofs.SortedMap

/-!
# The memory of a gateway is an account of its successes

What a gateway reports of itself, and the sources on which it runs a testbench, are those of the
last synthesis that it answered; and of each testbench it knows what it answered last. A success is
noted in the memory, so noting one keeps the account (`Accounts.noted`), and so do any number of
requests.
-/

set_option autoImplicit false

namespace CoreTrial

open Gateway (Exchange Synthesized Request)

/-- The last answer about a testbench, which is named by the text of its path. -/
def Gateway.lastVerification? (log : List Exchange) (testbench : String) :
    Option VerificationReport :=
  (log.filterMap fun x => x.verification?.filter fun r => r.testbench.text == testbench).getLast?

namespace ToolchainSettings

variable {s : ToolchainSettings} {launcher : Launcher} {epoch : Timestamp} {now : Duration}
  {w b : Workbench} {q : Request} {r : Except ToolError Gateway.Answer}

/-- The last synthesis that was answered. -/
def lastSynthesized? (s : ToolchainSettings) (log : List Exchange) : Option Synthesized :=
  (log.filterMap s.synthesized?).getLast?

/-- A memory in which the last success of each kind stands. -/
structure Accounts (s : ToolchainSettings) (log : List Exchange) (m : GatewayMemory) : Prop where
  artifact : m.lastArtifact = (s.lastSynthesized? log).map fun y => y.artifact
  text : m.lastLog = (s.lastSynthesized? log).map fun y => y.log
  sources : m.lastSources = ((s.lastSynthesized? log).map fun y => y.sources).getD []
  verifications : ∀ testbench,
    m.verifications.find? testbench = Gateway.lastVerification? log testbench

variable {log : List Exchange} {m : GatewayMemory}

theorem lastSynthesized?_snoc (log : List Exchange) (x : Exchange) :
    s.lastSynthesized? (log ++ [x]) = (s.synthesized? x).or (s.lastSynthesized? log) :=
  Log.getLast?_filterMap_snoc s.synthesized? log x

theorem lastVerification?_snoc (log : List Exchange) (x : Exchange) (testbench : String) :
    Gateway.lastVerification? (log ++ [x]) testbench =
      (x.verification?.filter fun r => r.testbench.text == testbench).or
        (Gateway.lastVerification? log testbench) :=
  Log.getLast?_filterMap_snoc _ log x

/-- A synthesis says nothing of a testbench. -/
theorem verification?_of_synthesized? {x : Exchange} {y : Synthesized}
    (h : s.synthesized? x = some y) : x.verification? = none := by
  obtain ⟨q, r, files⟩ := x
  cases q with
  | verify testbench kind => cases h
  | _ => rfl

/-- A synthesis that is remembered is the last one. -/
theorem Accounts.rememberSynthesis (account : s.Accounts log m) {x : Exchange} {y : Synthesized}
    (synthesis : s.synthesized? x = some y) :
    s.Accounts (log ++ [x]) (m.rememberSynthesis y.artifact y.sources y.log) := by
  have last : s.lastSynthesized? (log ++ [x]) = some y := by
    rw [lastSynthesized?_snoc, synthesis, Option.some_or]
  constructor
  · rw [last]
    rfl
  · rw [last]
    rfl
  · rw [last]
    rfl
  · intro testbench
    rw [lastVerification?_snoc, verification?_of_synthesized? synthesis]
    exact account.verifications testbench

/-- Any other exchange changes at most what is known of testbenches. -/
theorem Accounts.of_verifications (account : s.Accounts log m) {x : Exchange}
    (synthesis : s.synthesized? x = none) {verifications : SortedMap VerificationReport}
    (known : ∀ testbench,
      verifications.find? testbench = Gateway.lastVerification? (log ++ [x]) testbench) :
    s.Accounts (log ++ [x]) { m with verifications } := by
  have same : s.lastSynthesized? (log ++ [x]) = s.lastSynthesized? log := by
    rw [lastSynthesized?_snoc, synthesis, Option.none_or]
  exact ⟨same ▸ account.artifact, same ▸ account.text, same ▸ account.sources, known⟩

/-- Noting an exchange keeps the account. -/
theorem Accounts.noted (account : s.Accounts log m) (x : Exchange) :
    s.Accounts (log ++ [x]) (s.noted x m) := by
  unfold ToolchainSettings.noted
  split
  · rename_i y _ synthesis
    exact account.rememberSynthesis synthesis
  · rename_i r synthesis said
    refine account.of_verifications synthesis fun testbench => ?_
    rw [lastVerification?_snoc, said, SortedMap.find?_insert, account.verifications]
    by_cases here : r.testbench.text = testbench
    · rw [if_pos here, Option.filter_some_pos (by simpa using here)]
      rfl
    · rw [if_neg here, Option.filter_some_neg (by simpa using here)]
      rfl
  · rename_i synthesis said
    refine account.of_verifications synthesis fun testbench => ?_
    rw [lastVerification?_snoc, said]
    exact account.verifications testbench

/-- After any requests the memory is an account of what was answered. -/
theorem accounts_of_account (account : (s.gateway launcher epoch).Account log w) :
    s.Accounts log w.memory := by
  induction account with
  | start files => exact ⟨rfl, rfl, rfl, fun _ => rfl⟩
  | edit _ files ih => exact ih
  | @answered log w w' q r now later _ ends ih =>
    have served := (s.serve_meets launcher epoch q now w).finish ends
    rw [served.memory]
    exact ih.noted ⟨q, r, w'.files⟩
  | @dropped log w w' q now later _ waits ih =>
    have memory := (s.serve_meets launcher epoch q now w).of_mem_pauses waits
    rw [memory]
    exact ih
  | reordered _ perm ih => exact ⟨ih.artifact, ih.text, ih.sources, ih.verifications⟩

/-- A gateway on Vivado that works in the root folder. -/
def inRoot : ToolchainSettings where
  backend := .vivado
  buildDir := ⟨"/"⟩

/-- The files with nothing but a testbench. -/
def testbenchOnly : FileSystem :=
  FileSystem.bare.put ["tb.v"] (.file 0 newFileMode "".toUTF8)

/-- The one testbench is simulated by a run that is over at once. -/
theorem verify_inRoot (run : FileSystem → FileSystem × Except IoError ProcessEnd)
    (report : VerificationReport)
    (said : ∀ files : FileSystem, files.Flat →
      (⟨inRoot.buildDir, inRoot.vivado, inRoot.toolTimeout⟩ : VivadoGateway).verdict ⟨"tb.v"⟩
        .behavioral (run files).1 (some (run files).2) = .ok report) :
    ∃ files : FileSystem, files.Flat ∧
      ((inRoot.gateway (fun _ => Work.act run) ⟨0, 0⟩).serve (.verify ⟨"tb.v"⟩ .behavioral)).Ends 0
        ⟨testbenchOnly, .empty⟩ (.ok (.verification report)) 0
        ⟨(run files).1, GatewayMemory.empty.rememberVerification report⟩ := by
  have flat : testbenchOnly.Flat := FileSystem.flat_bare.put_file ..
  have there : testbenchOnly.exists ⟨"tb.v"⟩ = true := by
    rw [flat.exists_of_isName (by decide +kernel : FileSystem.isName ⟨"tb.v"⟩ "tb.v" = true)]
    rfl
  have folder : testbenchOnly.makeFolders ⟨"/"⟩ = .ok testbenchOnly :=
    FileSystem.makeFolders_root flat.root
  let g : VivadoGateway := ⟨inRoot.buildDir, inRoot.vivado, inRoot.toolTimeout⟩
  let script := Script.simulation [] ⟨"tb.v"⟩ .behavioral
  obtain ⟨files, writes, flat⟩ := flat.writeText
    (by decide +kernel : FileSystem.isName (g.buildDir.child "verify.tcl") "verify.tcl" = true)
    script
  have written : g.writeScript "verify.tcl" script testbenchOnly =
      (files, .ok (g.buildDir.child "verify.tcl")) :=
    VivadoGateway.writeScript_of_ok folder writes
  have verified : g.verify (fun _ => Work.act run) ⟨"tb.v"⟩ .behavioral 0
      ⟨testbenchOnly, .empty⟩ = _ :=
    VivadoGateway.verify_apply there written
  refine ⟨files, flat, ?_⟩
  have served : (inRoot.gateway (fun _ => Work.act run) ⟨0, 0⟩).serve
      (.verify ⟨"tb.v"⟩ .behavioral) 0 ⟨testbenchOnly, .empty⟩ = .done
        ⟨(run files).1, GatewayMemory.empty.rememberVerification report⟩
        (.ok (.verification report)) := by
    change Activity.andThen 0 _ (g.verify _ ⟨"tb.v"⟩ .behavioral 0 _) = _
    rw [verified]
    change Activity.andThen 0 _ (.done (VivadoGateway.afterVerdict ⟨(run files).1, .empty⟩
      (g.verdict ⟨"tb.v"⟩ .behavioral (run files).1 _)) _) = _
    rw [said files flat]
    rfl
  unfold Work.Ends
  rw [served]
  rfl

end ToolchainSettings

end CoreTrial
