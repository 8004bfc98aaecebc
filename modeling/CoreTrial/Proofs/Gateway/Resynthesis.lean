import CoreTrial.Proofs.FileSystem.Folders
import CoreTrial.Proofs.Gateway.Resolution

/-!
# Synthesizing again

The mock gateway writes its outputs over those of its last synthesis. At each place the last output
that leads there is what is left, whatever stood there before. So a synthesis that has succeeded
succeeds again, with the same artifact and the same reports, for as long as the paths of its outputs
lead where they led.
-/

set_option autoImplicit false

namespace CoreTrial

namespace FileSystem

/-- The text that the last of some outputs leaves at a place. -/
def landing (fs : FileSystem) (q : Place) : List (Path × String) → Option String
  | [] => none
  | o :: outputs => (fs.landing q outputs).or (if fs.place? o.1 = some q then some o.2 else none)

variable {fs fs' : FileSystem} {q : Place} {outputs : List (Path × String)}

theorem landing_congr (same : ∀ o ∈ outputs, fs'.place? o.1 = fs.place? o.1) :
    fs'.landing q outputs = fs.landing q outputs := by
  induction outputs with
  | nil => rfl
  | cons o outputs ih =>
    rw [landing, landing, same o List.mem_cons_self,
      ih fun o mem => same o (List.mem_cons_of_mem _ mem)]

theorem landing_eq_none_iff :
    fs.landing q outputs = none ↔ ∀ o ∈ outputs, fs.place? o.1 ≠ some q := by
  induction outputs with
  | nil => simp [landing]
  | cons o outputs ih => simp [landing, ih, and_comm]

end FileSystem

namespace MockGateway

variable {fs fs' : FileSystem} {p : Path} {q : Place} {n : Node} {o : Path × String}
  {outputs : List (Path × String)}

theorem writeFiles_cons_eq_ok (written : writeFiles (o :: outputs) fs = (fs', .ok ())) :
    ∃ fs₁, fs.writeText o.1 o.2 = .ok fs₁ ∧ writeFiles outputs fs₁ = (fs', .ok ()) := by
  obtain ⟨path, text⟩ := o
  rw [writeFiles] at written
  cases first : fs.writeText path text with
  | error e =>
    rw [first] at written
    cases written
  | ok fs₁ =>
    rw [first] at written
    exact ⟨fs₁, rfl, written⟩

theorem keeps_of_writeFiles (written : writeFiles outputs fs = (fs', .ok ())) : fs.Keeps fs' := by
  induction outputs generalizing fs with
  | nil =>
    cases written
    exact .refl _
  | cons o outputs ih =>
    obtain ⟨fs₁, first, rest⟩ := writeFiles_cons_eq_ok written
    exact (FileSystem.write_eq_ok first).1.trans (ih rest)

/-- Every output has been written to what its path leads to. -/
theorem written_of_writeFiles (written : writeFiles outputs fs = (fs', .ok ()))
    (mem : o ∈ outputs) : ∃ q n old, fs'.node? o.1 = .ok (q, n) ∧ n.Written old := by
  induction outputs generalizing fs with
  | nil => cases mem
  | cons o' outputs ih =>
    obtain ⟨fs₁, first, rest⟩ := writeFiles_cons_eq_ok written
    rcases List.mem_cons.1 mem with rfl | mem
    · obtain ⟨-, q, n, leads, opens, -⟩ := FileSystem.write_eq_ok first
      obtain ⟨n', leads', same⟩ := (keeps_of_writeFiles rest).stays o.1 q n leads
      obtain ⟨old, opens'⟩ := opens.of_shape same
      exact ⟨q, n', old, leads', opens'⟩
    · exact ih rest mem

/-- What stands at a place is what the last output that leads there has left, or what stood there
before. -/
theorem get?_of_writeFiles (written : writeFiles outputs fs = (fs', .ok ()))
    (found : fs'.get? q = some n) :
    (∃ text, fs'.landing q outputs = some text ∧ n.Written text.toUTF8) ∨
      fs'.landing q outputs = none ∧ fs.get? q = some n := by
  induction outputs generalizing fs with
  | nil =>
    cases written
    exact .inr ⟨rfl, found⟩
  | cons o outputs ih =>
    obtain ⟨fs₁, first, rest⟩ := writeFiles_cons_eq_ok written
    obtain ⟨-, q', n', leads, opens, others⟩ := FileSystem.write_eq_ok first
    obtain ⟨n'', leads', -⟩ := (keeps_of_writeFiles rest).stays o.1 q' n' leads
    have place : fs'.place? o.1 = some q' := FileSystem.place?_eq_some_iff.2 ⟨n'', leads'⟩
    rw [FileSystem.landing, place]
    rcases ih rest with ⟨text, last, left⟩ | ⟨none, before⟩
    · exact .inl ⟨text, by rw [last, Option.some_or], left⟩
    · rw [none, Option.none_or]
      by_cases here : q' = q
      · subst here
        cases (FileSystem.get?_of_node? leads).symm.trans before
        exact .inl ⟨o.2, if_pos rfl, opens⟩
      · refine .inr ⟨if_neg fun same => here (Option.some.inj same), ?_⟩
        exact (others q (Ne.symm here)).symm.trans before

/-- Files can be written where all paths lead to files and devices. -/
theorem exists_writeFiles
    (opens : ∀ o ∈ outputs, ∃ q n old, fs.node? o.1 = .ok (q, n) ∧ n.Written old) :
    ∃ fs', writeFiles outputs fs = (fs', .ok ()) := by
  induction outputs generalizing fs with
  | nil => exact ⟨fs, rfl⟩
  | cons o outputs ih =>
    obtain ⟨q, n, old, leads, open_⟩ := opens o List.mem_cons_self
    obtain ⟨fs₁, first⟩ := FileSystem.exists_write leads open_ o.2.toUTF8
    have keeps := (FileSystem.write_eq_ok first).1
    have rest (o : Path × String) (mem : o ∈ outputs) :
        ∃ q n old, fs₁.node? o.1 = .ok (q, n) ∧ n.Written old := by
      obtain ⟨q, n, old, leads, open_⟩ := opens o (List.mem_cons_of_mem _ mem)
      obtain ⟨n', leads', same⟩ := keeps.stays o.1 q n leads
      obtain ⟨old', open_'⟩ := open_.of_shape same
      exact ⟨q, n', old', leads', open_'⟩
    obtain ⟨fs', written⟩ := ih rest
    refine ⟨fs', ?_⟩
    obtain ⟨path, text⟩ := o
    have first' : fs.writeText path text = .ok fs₁ := first
    rw [writeFiles, first']
    exact written

/-- Files that are written twice are read alike, as long as their paths lead where they led. -/
theorem readBytes_of_writeFiles {files files' : FileSystem}
    (written : writeFiles outputs files = (fs, .ok ()))
    (written' : writeFiles outputs files' = (fs', .ok ()))
    (stays : ∀ o ∈ outputs, fs.Stays fs' o.1) (mem : o ∈ outputs) :
    fs'.readBytes o.1 = fs.readBytes o.1 := by
  have leads (o : Path × String) (mem : o ∈ outputs) : ∃ q n n',
      fs.node? o.1 = .ok (q, n) ∧ fs'.node? o.1 = .ok (q, n') ∧ n'.shape = n.shape := by
    obtain ⟨q, n, _, leads, -⟩ := written_of_writeFiles written mem
    obtain ⟨n', leads', same⟩ := stays o mem q n leads
    exact ⟨q, n, n', leads, leads', same⟩
  have places (o : Path × String) (mem : o ∈ outputs) : fs'.place? o.1 = fs.place? o.1 := by
    obtain ⟨q, n, n', leads, leads', -⟩ := leads o mem
    rw [FileSystem.place?_eq_some_iff.2 ⟨n, leads⟩, FileSystem.place?_eq_some_iff.2 ⟨n', leads'⟩]
  obtain ⟨q, n, n', leads, leads', same⟩ := leads o mem
  -- The same output is the last one there, both times.
  have last : fs'.landing q outputs = fs.landing q outputs := FileSystem.landing_congr places
  have here : fs.landing q outputs ≠ none := by
    rw [Ne, FileSystem.landing_eq_none_iff]
    exact fun apart => apart o mem (FileSystem.place?_eq_some_iff.2 ⟨n, leads⟩)
  obtain ⟨text, left, opens⟩ | ⟨none, -⟩ :=
    get?_of_writeFiles written (FileSystem.get?_of_node? leads)
  · obtain ⟨text', left', opens'⟩ | ⟨none, -⟩ :=
      get?_of_writeFiles written' (FileSystem.get?_of_node? leads')
    · cases left.symm.trans (last.symm.trans left')
      exact FileSystem.readBytes_of_written leads leads' same opens opens'
    · exact absurd (last.symm.trans none) here
  · exact absurd none here

variable {g : MockGateway} {createdAt : Timestamp} {sources : List Path} {top part : String}
  {w w' v : Workbench} {artifact : SynthesisArtifact}

/-- A synthesis makes the build folder and writes its outputs. Its artifact depends on nothing else
than the time. -/
theorem synthesize_eq_ok
    (answered : g.synthesize createdAt sources top part w = (w', .ok artifact)) :
    (∃ files, w.files.makeFolders g.buildDir = .ok files ∧
        writeFiles (g.outputs top) files = (w'.files, .ok ())) ∧
      w'.memory.Knows artifact.bitstream ∧
      ∀ later v files files', v.files.makeFolders g.buildDir = .ok files →
        writeFiles (g.outputs top) files = (files', .ok ()) →
        ∃ memory, g.synthesize later sources top part v =
          (⟨files', memory⟩, .ok { artifact with createdAt := later }) := by
  unfold synthesize at answered
  split at answered
  · cases answered
  · rename_i files made
    split at answered
    · cases answered
    · rename_i files' written
      cases answered
      refine ⟨⟨files, made, written⟩, ?_, ?_⟩
      · rw [GatewayMemory.knows_rememberSynthesis_iff]
        exact .inr (Path.same_iff.2 rfl)
      · intro later v files files' made written
        unfold synthesize
        rw [made]
        dsimp only
        rw [written]
        exact ⟨_, rfl⟩

/-- A path to where no output has been written leads to the node that it has led to. -/
theorem node?_of_synthesize
    (answered : g.synthesize createdAt sources top part w = (w', .ok artifact))
    (leads : w.files.node? p = .ok (q, n))
    (apart : ∀ o ∈ g.outputs top, w'.files.place? o.1 ≠ some q) :
    w'.files.node? p = .ok (q, n) := by
  obtain ⟨⟨files, made, written⟩, -⟩ := synthesize_eq_ok answered
  have leads' := (FileSystem.makeFolders_eq_ok made).1.node? leads
  obtain ⟨n', leads'', -⟩ := (keeps_of_writeFiles written).stays p q n leads'
  have found := FileSystem.get?_of_node? leads''
  obtain ⟨text, last, -⟩ | ⟨-, before⟩ := get?_of_writeFiles written found
  · rw [FileSystem.landing_eq_none_iff.2 apart] at last
    cases last
  · cases (FileSystem.get?_of_node? leads').symm.trans before
    exact leads''

/-- A text is left as it is by a synthesis that writes no output to it. -/
theorem readText_of_synthesize {text : String}
    (answered : g.synthesize createdAt sources top part w = (w', .ok artifact))
    (read : w.files.readText p = .ok text)
    (apart : ∀ o ∈ g.outputs top, w'.files.place? o.1 ≠ w'.files.place? p) :
    w'.files.readText p = .ok text := by
  obtain ⟨q, place⟩ := FileSystem.place?_of_readText read
  obtain ⟨n, leads⟩ := FileSystem.place?_eq_some_iff.1 place
  obtain ⟨⟨files, made, written⟩, -⟩ := synthesize_eq_ok answered
  have keeps := (FileSystem.makeFolders_eq_ok made).1.keeps.trans (keeps_of_writeFiles written)
  rw [(keeps.stays p).place? place] at apart
  have leads' := node?_of_synthesize answered leads apart
  rw [FileSystem.readText, FileSystem.readBytes, leads] at read
  rw [FileSystem.readText, FileSystem.readBytes, leads']
  exact read

/-- Every output is there after a synthesis. -/
theorem place?_of_synthesize
    (answered : g.synthesize createdAt sources top part w = (w', .ok artifact))
    (mem : o ∈ g.outputs top) : ∃ q, w'.files.place? o.1 = some q := by
  obtain ⟨⟨files, -, written⟩, -⟩ := synthesize_eq_ok answered
  obtain ⟨q, n, _, leads, -⟩ := written_of_writeFiles written mem
  exact ⟨q, FileSystem.place?_eq_some_iff.2 ⟨n, leads⟩⟩

/-- The paths on which a synthesis depends: those of the build folder and of its outputs. -/
def paths (g : MockGateway) (top : String) : List Path :=
  FileSystem.folderPath g.buildDir :: (g.outputs top).map Prod.fst

/-- **A synthesis can be repeated.** Where the paths of a synthesis still lead where they led at its
end, the same synthesis has the same artifact, apart from its time, and each output is read as it
was. -/
theorem synthesize_again
    (answered : g.synthesize createdAt sources top part w = (w', .ok artifact))
    (stays : ∀ p ∈ g.paths top, w'.files.Stays v.files p) (later : Timestamp) :
    ∃ v', g.synthesize later sources top part v =
        (v', .ok { artifact with createdAt := later }) ∧
      v.files.Keeps v'.files ∧
      ∀ o ∈ g.outputs top, v'.files.readText o.1 = w'.files.readText o.1 := by
  obtain ⟨⟨files, made, written⟩, -, repeats⟩ := synthesize_eq_ok answered
  obtain ⟨folder, outputs⟩ := List.forall_mem_cons.1 stays
  have made' : v.files.makeFolders g.buildDir = .ok v.files :=
    FileSystem.makeFolders_again made (((keeps_of_writeFiles written).stays _).trans folder)
  obtain ⟨files', written'⟩ : ∃ files', writeFiles (g.outputs top) v.files = (files', .ok ()) := by
    refine exists_writeFiles fun o mem => ?_
    obtain ⟨q, n, old, leads, opens⟩ := written_of_writeFiles written mem
    obtain ⟨n', leads', same⟩ := outputs o.1 (List.mem_map_of_mem mem) q n leads
    obtain ⟨old', opens'⟩ := opens.of_shape same
    exact ⟨q, n', old', leads', opens'⟩
  obtain ⟨memory, again⟩ := repeats later v v.files files' made' written'
  have keeps := keeps_of_writeFiles written'
  refine ⟨⟨files', memory⟩, again, keeps, fun o mem => ?_⟩
  unfold FileSystem.readText
  rw [readBytes_of_writeFiles written written' (fun o mem => ?_) mem]
  exact (outputs o.1 (List.mem_map_of_mem mem)).trans (keeps.stays o.1)

/-- The path of a report. -/
def reportPath (g : MockGateway) (m : Metric) : Path :=
  g.buildDir.child m.reportFile

/-- What is confirmed of a bitstream that was produced. -/
def confirmation (bitstream : Path) (device : Option String) : FlashConfirmation where
  bitstream := bitstream
  deviceId := device.getD FlashConfirmation.defaultDevice
  message := "Device " ++ device.getD FlashConfirmation.defaultDevice ++
    " successfully flashed with " ++ bitstream.text ++ "."

/-- A bitstream that was produced is programmed as it is named. -/
theorem flash_of_knows {bitstream : Path} (known : w.memory.Knows bitstream)
    (device : Option String) :
    flash bitstream device w = (w, .ok (confirmation bitstream device)) := by
  unfold flash
  rw [GatewayMemory.resolve_of_knows known]
  rfl

/-- What is reported on the utilization: what is read, or else a report of any design. -/
def utilizationText (g : MockGateway) (files : FileSystem) : String :=
  ((files.readText (g.reportPath .utilization)).toOption).getD (cannedReport .utilization)

theorem utilizationText_congr (top : String)
    (same : ∀ o ∈ g.outputs top, fs'.readText o.1 = fs.readText o.1) :
    g.utilizationText fs' = g.utilizationText fs := by
  have written : (g.reportPath .utilization, g.settings.utilizationReport) ∈ g.outputs top := by
    simp [outputs, reportPath]
  rw [utilizationText, utilizationText, same _ written]

theorem analyze_utilization (g : MockGateway) (w : Workbench) :
    g.analyze Metric.utilization.name w =
      (w, .ok (.report .utilization (g.utilizationText w.files))) := by
  have known : Metric.read Metric.utilization.name = .ok .utilization := by decide +kernel
  unfold analyze
  rw [known, utilizationText]
  dsimp only
  rw [← reportPath]
  cases w.files.readText (g.reportPath .utilization) <;> rfl

/-- The utilization report is a file, and no other report is written to it. -/
def OwnReport (g : MockGateway) (files : FileSystem) : Prop :=
  ∃ q number mode bytes,
    files.node? (g.reportPath .utilization) = .ok (q, .file number mode bytes) ∧
      ∀ m, m ≠ .utilization → files.place? (g.reportPath m) ≠ some q

/-- In a file of its own, the report is what was given beforehand. -/
theorem utilizationText_of_own
    (answered : g.synthesize createdAt sources top part w = (w', .ok artifact))
    (own : g.OwnReport w'.files) : g.utilizationText w'.files = g.settings.utilizationReport := by
  obtain ⟨q, number, mode, bytes, leads, own⟩ := own
  obtain ⟨⟨files, -, written⟩, -⟩ := synthesize_eq_ok answered
  have here : w'.files.place? (g.reportPath .utilization) = some q :=
    FileSystem.place?_eq_some_iff.2 ⟨_, leads⟩
  have last : w'.files.landing q (g.outputs top) = some g.settings.utilizationReport := by
    have timing := own .timing nofun
    have power := own .power nofun
    rw [reportPath] at here timing power
    simp [outputs, FileSystem.landing, here, timing, power]
  obtain ⟨text, left, opens⟩ | ⟨none, -⟩ :=
    get?_of_writeFiles written (FileSystem.get?_of_node? leads)
  · cases last.symm.trans left
    cases opens
    have read : w'.files.readText (g.reportPath .utilization) =
        .ok g.settings.utilizationReport := by
      rw [FileSystem.readText_eq_ok_iff, FileSystem.readBytes, leads]
    rw [utilizationText, read]
    rfl
  · cases last.symm.trans none

end MockGateway

end CoreTrial
