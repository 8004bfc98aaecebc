import CoreTrial.Proofs.Activity.Embed
import CoreTrial.Proofs.FileSystem.Folders
import CoreTrial.Proofs.Gateway.Account
import CoreTrial.Proofs.Gateway.Resolution
import CoreTrial.Proofs.Path
import Mathlib.Data.List.Pairwise

/-!
# When a name stands for one bitstream

The known bitstreams are a set, and a file name stands for the first of them that has it. So which
one it is depends on nothing but the history exactly if no two of them have that name, or if the
name is also a path that is there or known (`resolution_settled_iff`). Two of them have one name
only where the name of a top module leads into another folder.
-/

set_option autoImplicit false

namespace CoreTrial

open Gateway (Exchange Request artifacts)

namespace GatewayMemory

/-- The memory with its bitstreams in another order. -/
def reordered (m : GatewayMemory) (known : List Path) : GatewayMemory :=
  { m with produced := known }

@[simp] theorem produced_reordered (m : GatewayMemory) (known : List Path) :
    (m.reordered known).produced = known := rfl

/-- A name that two bitstreams have, while it is no path that is there or known. -/
structure Ambiguous (made : List SynthesisArtifact) (files : FileSystem) (requested : Path) :
    Prop where
  absent : files.exists requested = false
  other : ∀ a ∈ made, requested.same a.bitstream = false
  shared : ∃ a ∈ made, ∃ b ∈ made, a.bitstream.same b.bitstream = false ∧
    a.bitstream.fileName? = some requested.text ∧ b.bitstream.fileName? = some requested.text

variable {m : GatewayMemory} {files : FileSystem} {requested : Path} {known : List Path}

/-- A path that is there or known stands for itself. -/
theorem resolve_of_settled
    (settled : (files.exists requested || m.produced.any requested.same) = true) :
    m.resolve files requested = .ok requested := by
  unfold resolve
  rw [if_pos settled]

/-- Any other path stands for the first bitstream of that name. -/
theorem resolve_of_unsettled (absent : files.exists requested = false)
    (unknown : m.produced.any requested.same = false) :
    m.resolve files requested =
      match m.produced.find? fun p => p.fileName? == some requested.text with
      | some p => .ok p
      | none => .error (.artifactNotFound requested) := by
  unfold resolve
  rewrite [absent, unknown, Bool.or_self, if_neg Bool.false_ne_true]
  rfl

end GatewayMemory

namespace Gateway.Account

variable {s : ToolchainSettings} {launcher : Launcher} {epoch : Timestamp} {log : List Exchange}
  {w : Workbench} {requested : Path} {known : List Path}

/-- A bitstream that was answered is known, under this path or another spelling of it. -/
theorem exists_known (account : (s.gateway launcher epoch).Account log w) {a : SynthesisArtifact}
    (mem : a ∈ artifacts log) :
    ∃ k ∈ w.memory.produced, a.bitstream.same k = true ∧ k.fileName? = a.bitstream.fileName? := by
  obtain ⟨k, hk, same⟩ := (account.knows_iff a.bitstream).2 ⟨a, mem, Path.same_iff.2 rfl⟩
  exact ⟨k, hk, same, (Path.fileName?_eq_of_same same).symm⟩

/-- A path is unknown if no artifact has it. -/
theorem any_same_eq_false_iff (account : (s.gateway launcher epoch).Account log w) :
    w.memory.produced.any requested.same = false ↔
      ∀ a ∈ artifacts log, requested.same a.bitstream = false := by
  rw [← Bool.not_eq_true, GatewayMemory.any_same_iff, account.knows_iff]
  simp

/-- A name that is not ambiguous stands for the same bitstream in any order. -/
theorem resolve_reordered (account : (s.gateway launcher epoch).Account log w)
    (clear : ¬ GatewayMemory.Ambiguous (artifacts log) w.files requested)
    (perm : known.Perm w.memory.produced) :
    (w.memory.reordered known).resolve w.files requested =
      w.memory.resolve w.files requested := by
  by_cases settled : (w.files.exists requested || w.memory.produced.any requested.same) = true
  · have settled' : (w.files.exists requested || known.any requested.same) = true := by
      rwa [perm.any_eq]
    rw [GatewayMemory.resolve_of_settled settled]
    exact GatewayMemory.resolve_of_settled settled'
  · obtain ⟨absent, unknown⟩ := Bool.or_eq_false_iff.1 (Bool.eq_false_iff.2 settled)
    have unknown' : known.any requested.same = false := by rwa [perm.any_eq]
    rw [GatewayMemory.resolve_of_unsettled absent unknown,
      GatewayMemory.resolve_of_unsettled absent unknown']
    have unique : ∀ x ∈ w.memory.produced, ∀ y ∈ w.memory.produced,
        (x.fileName? == some requested.text) = true → (y.fileName? == some requested.text) = true →
          x = y := by
      intro x hx y hy x_named y_named
      by_contra differ
      have apart := account.pairwise_produced.forall hx hy differ
      obtain ⟨a, ha, rfl⟩ := account.exists_of_mem_produced hx
      obtain ⟨b, hb, rfl⟩ := account.exists_of_mem_produced hy
      exact clear ⟨absent, (account.any_same_eq_false_iff).1 unknown, a, ha, b, hb, apart,
        beq_iff_eq.1 x_named, beq_iff_eq.1 y_named⟩
    rw [GatewayMemory.reordered, Log.find?_of_perm perm unique]

/-- An ambiguous name stands for whichever of its bitstreams comes first. -/
theorem resolve_of_first (account : (s.gateway launcher epoch).Account log w)
    (ambiguous : GatewayMemory.Ambiguous (artifacts log) w.files requested)
    (before : List Path) {after : List Path} {k : Path}
    (perm : (before ++ k :: after).Perm w.memory.produced)
    (first : ∀ p ∈ before, p.fileName? ≠ some requested.text)
    (named : k.fileName? = some requested.text) :
    (w.memory.reordered (before ++ k :: after)).resolve w.files requested = .ok k := by
  have unknown := account.any_same_eq_false_iff.2 ambiguous.other
  rw [← perm.any_eq] at unknown
  have found : (before ++ k :: after).find? (fun p => p.fileName? == some requested.text) =
      some k := by
    refine List.find?_eq_some_iff_append.2 ⟨beq_iff_eq.2 named, before, after, rfl, fun p mem => ?_⟩
    rw [Bool.not_eq_true', beq_eq_false_iff_ne]
    exact first p mem
  rw [GatewayMemory.resolve_of_unsettled ambiguous.absent unknown, GatewayMemory.reordered, found]

/-- In every order, some bitstream of an ambiguous name comes first. -/
theorem exists_first (account : (s.gateway launcher epoch).Account log w)
    (ambiguous : GatewayMemory.Ambiguous (artifacts log) w.files requested)
    (perm : known.Perm w.memory.produced) :
    ∃ before k after, known = before ++ k :: after ∧
      (∀ p ∈ before, p.fileName? ≠ some requested.text) ∧ k.fileName? = some requested.text := by
  obtain ⟨a, ha, -, -, -, a_named, -⟩ := ambiguous.shared
  obtain ⟨k, hk, -, k_named⟩ := account.exists_known ha
  have there : (known.find? fun p => p.fileName? == some requested.text).isSome = true :=
    List.find?_isSome.2 ⟨k, perm.mem_iff.2 hk, beq_iff_eq.2 (k_named.trans a_named)⟩
  obtain ⟨k, found⟩ := Option.isSome_iff_exists.1 there
  obtain ⟨named, before, after, whole, first⟩ := List.find?_eq_some_iff_append.1 found
  refine ⟨before, k, after, whole, fun p mem => ?_, beq_iff_eq.1 named⟩
  have other := first p mem
  rwa [Bool.not_eq_true', beq_eq_false_iff_ne] at other

/-- An ambiguous name stands for something else in another order. -/
theorem exists_reordered_of_ambiguous (account : (s.gateway launcher epoch).Account log w)
    (ambiguous : GatewayMemory.Ambiguous (artifacts log) w.files requested) :
    ∃ known, known.Perm w.memory.produced ∧
      (w.memory.reordered known).resolve w.files requested ≠
        w.memory.resolve w.files requested := by
  obtain ⟨a, ha, b, hb, apart, a_named, b_named⟩ := ambiguous.shared
  obtain ⟨k, hk, a_same, k_named⟩ := account.exists_known ha
  obtain ⟨l, hl, b_same, l_named⟩ := account.exists_known hb
  have k_perm := (List.perm_cons_erase hk).symm
  have l_perm := (List.perm_cons_erase hl).symm
  have k_first := account.resolve_of_first ambiguous [] k_perm (by simp)
    (k_named.trans a_named)
  have l_first := account.resolve_of_first ambiguous [] l_perm (by simp)
    (l_named.trans b_named)
  by_cases same : k = l
  · rw [Path.same_iff] at a_same b_same
    have alike := Path.same_iff.2 (a_same.trans (same ▸ b_same.symm))
    rw [apart] at alike
    cases alike
  · by_contra fixed
    simp only [not_exists, not_and, not_not] at fixed
    have both := (fixed _ k_perm).trans (fixed _ l_perm).symm
    rw [List.nil_append] at k_first l_first
    rw [k_first, l_first] at both
    exact same (Except.ok.inj both)

end Gateway.Account

/-- The workbench with the known bitstreams in another order. -/
def Workbench.reordered (w : Workbench) (known : List Path) : Workbench :=
  { w with memory := w.memory.reordered known }

section Flash

variable {w : Workbench} {known : List Path} {requested : Path} {device : Option String}

/-- Programming a device looks at the order of the bitstreams for nothing but their names. -/
theorem MockGateway.flash_reordered
    (same : (w.memory.reordered known).resolve w.files requested =
      w.memory.resolve w.files requested) :
    flash requested device (w.reordered known) =
      ((flash requested device w).1.reordered known, (flash requested device w).2) := by
  have resolves : (w.reordered known).memory.resolve (w.reordered known).files requested =
      w.memory.resolve w.files requested := same
  unfold flash
  rw [resolves]
  cases w.memory.resolve w.files requested <;> rfl

theorem VivadoGateway.flash_reordered {g : VivadoGateway} {launcher : Launcher} {now : Duration}
    (same : (w.memory.reordered known).resolve w.files requested =
      w.memory.resolve w.files requested) :
    g.flash launcher requested device now (w.reordered known) =
      (g.flash launcher requested device now w).embed fun b => b.reordered known := by
  cases resolves : w.memory.resolve w.files requested with
  | error e =>
    rw [flash_of_error resolves, flash_of_error (same.trans resolves)]
    rfl
  | ok resolved =>
    rw [flash_of_ok resolves, flash_of_ok (same.trans resolves)]
    have files : (onFiles (g.runScript launcher "flash.tcl"
          (Script.program resolved device g.settings.hwServerUrl) "flash") now w).embed
          (fun b => b.reordered known) =
        onFiles (g.runScript launcher "flash.tcl"
          (Script.program resolved device g.settings.hwServerUrl) "flash") now
            (w.reordered known) :=
      Activity.embed_embed _ _ _
    rw [← files]
    symm
    refine Activity.embed_andThen _ _ _ now fun r t b => ?_
    rfl

end Flash

namespace ToolchainSettings

variable {s : ToolchainSettings} {launcher : Launcher} {epoch : Timestamp}
  {log : List Exchange} {w : Workbench} {requested : Path} {known : List Path}

/-- A device is programmed alike in every order in which the path stands for the same bitstream. -/
theorem flash_reordered
    (same : (w.memory.reordered known).resolve w.files requested =
      w.memory.resolve w.files requested) (device : Option String) (now : Duration) :
    (s.gateway launcher epoch).flash requested device now (w.reordered known) =
      ((s.gateway launcher epoch).flash requested device now w).embed
        fun b => b.reordered known := by
  cases backend : s.backend with
  | mock =>
    rw [gateway_of_mock backend]
    change Activity.done _ _ = Activity.done _ _
    rw [MockGateway.flash_reordered same]
  | vivado =>
    rw [gateway_of_vivado backend]
    exact VivadoGateway.flash_reordered same

/-- The bitstream of a synthesis is named after its top module. -/
theorem synthesize_bitstream (s : ToolchainSettings) (launcher : Launcher) (epoch : Timestamp)
    (sources : List Path) (top part : String) (now : Duration) (w : Workbench) :
    ((s.gateway launcher epoch).synthesize sources top part now w).Meets (fun _ => True)
      fun _ r => ∀ a, r = .ok a → a.bitstream = s.buildDir.child (a.topModule ++ ".bit") := by
  cases backend : s.backend with
  | mock =>
    rw [gateway_of_mock backend]
    change Activity.Meets _ _ (.done _ (MockGateway.synthesize ..).2)
    refine .done fun a answered => ?_
    unfold MockGateway.synthesize at answered
    split at answered
    · cases answered
    · split at answered
      · cases answered
      · cases answered
        rfl
  | vivado =>
    rw [gateway_of_vivado backend]
    let g : VivadoGateway := ⟨s.buildDir, s.vivado, s.toolTimeout⟩
    change (g.synthesize launcher epoch sources top part now w).Meets _ _
    cases there : sources.find? fun p => !w.files.exists p with
    | some p =>
      rw [VivadoGateway.synthesize_of_missing there]
      exact .done nofun
    | none =>
      rw [VivadoGateway.synthesize_of_there there]
      refine .andThen ((Activity.Meets.unknown _).mono (fun _ h => h) fun b r _ t => ?_) now
      cases r with
      | error e => exact .done nofun
      | ok log =>
        refine .done fun a answered => ?_
        cases answered
        rfl

/-- Every bitstream that was answered is named after its top module. -/
theorem bitstream_of_answered (account : (s.gateway launcher epoch).Account log w)
    {a : SynthesisArtifact} (mem : a ∈ artifacts log) :
    a.bitstream = s.buildDir.child (a.topModule ++ ".bit") := by
  induction account with
  | start files => cases mem
  | edit _ files ih => exact ih mem
  | @answered log w w' q r now later _ ends ih =>
    rw [Gateway.artifacts_snoc] at mem
    rcases List.mem_append.1 mem with before | last
    · exact ih before
    · have fits := ((s.serve_meets launcher epoch q now w).finish ends).fits
      rcases r with e | answer
      · cases last
      cases answer with
      | artifact artifact =>
        cases List.mem_singleton.1 last
        cases q with
        | synthesize sources top part =>
          obtain ⟨v, mid, u, called, rest⟩ := Work.ends_bind_iff.1 ends
          have named := (s.synthesize_bitstream launcher epoch sources top part now w).finish called
          cases v with
          | error e => cases rest
          | ok artifact =>
            cases rest
            exact named _ rfl
        | _ => exact (fits _ rfl).elim
      | _ => cases last
  | dropped _ waits ih => exact ih mem
  | reordered _ perm ih => exact ih mem

/-- Bitstreams of top modules without slashes have one name only if they have one top module. -/
theorem not_ambiguous_of_plain (account : (s.gateway launcher epoch).Account log w)
    (plain : ∀ a ∈ artifacts log, '/' ∉ a.topModule.toList) (requested : Path) :
    ¬ GatewayMemory.Ambiguous (artifacts log) w.files requested := by
  have named {a : SynthesisArtifact} (mem : a ∈ artifacts log) :
      a.bitstream.fileName? = some (a.topModule ++ ".bit") := by
    rw [bitstream_of_answered account mem]
    have long : 4 ≤ (a.topModule ++ ".bit").length := by
      rw [String.length_append]
      exact Nat.le_add_left 4 _
    have other {name : String} (short : name.length < 4) : a.topModule ++ ".bit" ≠ name := by
      rintro rfl
      exact absurd long (Nat.not_le.2 short)
    refine Path.fileName?_child _ (other (by decide)) ?_ (other (by decide)) (other (by decide))
    rw [String.toList_append]
    exact fun slash => (List.mem_append.1 slash).elim (plain a mem) (by decide)
  intro ambiguous
  obtain ⟨a, ha, b, hb, apart, a_named, b_named⟩ := ambiguous.shared
  rw [named ha] at a_named
  rw [named hb] at b_named
  have one : a.topModule ++ ".bit" = b.topModule ++ ".bit" :=
    Option.some.inj (a_named.trans b_named.symm)
  rw [bitstream_of_answered account ha, bitstream_of_answered account hb, one] at apart
  rw [Path.same_iff.2 rfl] at apart
  cases apart

/-- **A path stands for the same bitstream in every order exactly if it is not an ambiguous name.**
After any requests, a path that is there or known, or whose name at most one known bitstream has,
stands for the same file in whichever order the set of known bitstreams is looked through; and
programming it does the same, whatever Vivado does. A name that two of them have stands for the one
that is found first. No name is ambiguous as long as no top module has a slash in its name. -/
theorem resolution_settled_iff (s : ToolchainSettings) (launcher : Launcher) (epoch : Timestamp)
    {log : List Exchange} {w : Workbench}
    (account : (s.gateway launcher epoch).Account log w) :
    (∀ requested, (∀ known, known.Perm w.memory.produced →
        (w.memory.reordered known).resolve w.files requested =
          w.memory.resolve w.files requested) ↔
      ¬ GatewayMemory.Ambiguous (artifacts log) w.files requested) ∧
    (∀ requested, ¬ GatewayMemory.Ambiguous (artifacts log) w.files requested →
      ∀ known, known.Perm w.memory.produced → ∀ device now,
        (s.gateway launcher epoch).flash requested device now (w.reordered known) =
          ((s.gateway launcher epoch).flash requested device now w).embed
            fun b => b.reordered known) ∧
    (∀ requested, GatewayMemory.Ambiguous (artifacts log) w.files requested →
      ∀ known, known.Perm w.memory.produced → ∃ before k after, known = before ++ k :: after ∧
        (∀ p ∈ before, p.fileName? ≠ some requested.text) ∧ k.fileName? = some requested.text ∧
        (w.memory.reordered known).resolve w.files requested = .ok k) ∧
    ((∀ a ∈ artifacts log, '/' ∉ a.topModule.toList) →
      ∀ requested, ¬ GatewayMemory.Ambiguous (artifacts log) w.files requested) := by
  refine ⟨fun requested => ⟨fun fixed ambiguous => ?_, fun clear known perm => ?_⟩, ?_, ?_,
    fun plain requested => not_ambiguous_of_plain account plain requested⟩
  · obtain ⟨known, perm, differs⟩ := account.exists_reordered_of_ambiguous ambiguous
    exact differs (fixed known perm)
  · exact account.resolve_reordered clear perm
  · intro requested clear known perm device now
    exact flash_reordered (account.resolve_reordered clear perm) device now
  · intro requested ambiguous known perm
    obtain ⟨before, k, after, rfl, first, named⟩ := account.exists_first ambiguous perm
    exact ⟨before, k, after, rfl, first, named,
      account.resolve_of_first ambiguous before perm first named⟩

/-- The name of the only bitstream stands for it in every order. -/
theorem single_bitstream_settled :
    ∃ (log : List Exchange) (w : Workbench), MockGateway.inRoot.Account log w ∧
      artifacts log = [MockGateway.topArtifact] ∧
      ¬ GatewayMemory.Ambiguous (artifacts log) w.files ⟨"Top.bit"⟩ ∧
      ∀ known, known.Perm w.memory.produced →
        (w.memory.reordered known).resolve w.files ⟨"Top.bit"⟩ =
          w.memory.resolve w.files ⟨"Top.bit"⟩ := by
  obtain ⟨w, answered⟩ := MockGateway.synthesize_inRoot
  let log : List Exchange :=
    [⟨.synthesize [] "Top" "part", .ok (.artifact MockGateway.topArtifact), w.files⟩]
  have account : MockGateway.inRoot.Account log w := .answered (.start .bare) answered
  obtain ⟨settled, -, -, plain⟩ := resolution_settled_iff { buildDir := ⟨"/"⟩ }
    (fun _ => Work.pure (.error .notFound)) ⟨0, 0⟩ account
  have made : artifacts log = [MockGateway.topArtifact] := rfl
  have clear := plain (by rw [made]; decide) ⟨"Top.bit"⟩
  exact ⟨log, w, account, made, clear, (settled ⟨"Top.bit"⟩).2 clear⟩

/-- Starts every program, and each ends at once with an exit code of 0. -/
def idle : Launcher :=
  fun _ => Work.pure (.ok ⟨some 0, "", ""⟩)

/-- A synthesis of no sources succeeds when Vivado does nothing. -/
theorem synthesize_idle (top : String) {files : FileSystem} (flat : files.Flat)
    (m : GatewayMemory) :
    ∃ (a : SynthesisArtifact) (log : String) (files' : FileSystem), files'.Flat ∧
      a.bitstream = (⟨"/"⟩ : Path).child (top ++ ".bit") ∧
      ((inRoot.gateway idle ⟨0, 0⟩).serve (.synthesize [] top "part")).Ends 0 ⟨files, m⟩
        (.ok (.artifact a)) 0 ⟨files', m.rememberSynthesis a [] log⟩ := by
  let g : VivadoGateway := ⟨inRoot.buildDir, inRoot.vivado, inRoot.toolTimeout⟩
  let script := Script.synthesis [] top "part" g.buildDir (g.buildDir.child (top ++ ".bit"))
  obtain ⟨files', writes, flat'⟩ := flat.writeText (by decide +kernel :
    FileSystem.isName (g.buildDir.child "synthesize.tcl") "synthesize.tcl" = true) script
  have written : g.writeScript "synthesize.tcl" script files =
      (files', .ok (g.buildDir.child "synthesize.tcl")) :=
    VivadoGateway.writeScript_of_ok (FileSystem.makeFolders_root flat.root) writes
  let log := g.buildDir.child "synthesize.log"
  let a := g.artifactOf top "part" log ⟨0, 0⟩
  let text := (files'.readText log).toOption.getD ""
  have synthesized : g.synthesize idle ⟨0, 0⟩ [] top "part" 0 ⟨files, m⟩ =
      .done ⟨files', m.rememberSynthesis a [] text⟩ (.ok a) := by
    rw [VivadoGateway.synthesize_of_there rfl, VivadoGateway.onFiles_runScript written]
    rfl
  have called : (g.synthesize idle ⟨0, 0⟩ [] top "part").Ends 0 ⟨files, m⟩ (.ok a) 0
      ⟨files', m.rememberSynthesis a [] text⟩ := by
    unfold Work.Ends
    rw [synthesized]
    rfl
  exact ⟨a, text, files', flat', rfl, Work.ends_bind_iff.2 ⟨_, _, _, called, rfl⟩⟩

/-- Two bitstreams of one file name are known once both were synthesized. -/
theorem exists_two_bitstreams :
    ∃ (log : List Exchange) (m : GatewayMemory),
      (inRoot.gateway idle ⟨0, 0⟩).Account log ⟨.bare, m⟩ ∧
      m.produced = [⟨"/a/Top.bit"⟩, ⟨"/b/Top.bit"⟩] := by
  obtain ⟨a, log, files, flat, a_path, first⟩ :=
    synthesize_idle "a/Top" FileSystem.flat_bare .empty
  obtain ⟨b, log', files', -, b_path, second⟩ :=
    synthesize_idle "b/Top" flat (GatewayMemory.empty.rememberSynthesis a [] log)
  refine ⟨_, _, .edit (.answered (.answered (.start .bare) first) second) .bare, ?_⟩
  have a_path : a.bitstream = ⟨"/a/Top.bit"⟩ := a_path.trans (by decide +kernel)
  have b_path : b.bitstream = ⟨"/b/Top.bit"⟩ := b_path.trans (by decide +kernel)
  have apart : (⟨"/b/Top.bit"⟩ : Path).same ⟨"/a/Top.bit"⟩ = false := by decide +kernel
  simp [GatewayMemory.rememberSynthesis, GatewayMemory.empty, a_path, b_path, apart]

/-- Of two bitstreams of one file name, the name stands for the one that is found first. -/
theorem name_of_two_bitstreams :
    ∃ (log : List Exchange) (w : Workbench) (known : List Path),
      (inRoot.gateway idle ⟨0, 0⟩).Account log w ∧ known.Perm w.memory.produced ∧
      w.memory.resolve w.files ⟨"Top.bit"⟩ = .ok ⟨"/a/Top.bit"⟩ ∧
      (w.memory.reordered known).resolve w.files ⟨"Top.bit"⟩ = .ok ⟨"/b/Top.bit"⟩ := by
  obtain ⟨log, m, account, produced⟩ := exists_two_bitstreams
  have absent : FileSystem.bare.exists ⟨"Top.bit"⟩ = false := by
    rw [FileSystem.flat_bare.exists_of_isName
      (by decide +kernel : FileSystem.isName ⟨"Top.bit"⟩ "Top.bit" = true)]
    rfl
  refine ⟨log, ⟨.bare, m⟩, [⟨"/b/Top.bit"⟩, ⟨"/a/Top.bit"⟩], account, ?_, ?_, ?_⟩
  · rw [produced]
    exact .swap ..
  · rw [GatewayMemory.resolve_of_unsettled absent (by rw [produced]; decide +kernel), produced]
    decide +kernel
  · rw [GatewayMemory.resolve_of_unsettled absent
      (by rw [GatewayMemory.produced_reordered]; decide +kernel), GatewayMemory.produced_reordered]
    decide +kernel

end ToolchainSettings

end CoreTrial
