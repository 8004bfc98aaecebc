import CoreTrial.Proofs.Script.Reading

/-!
# Paths in scripts

Each path of a script is put between braces as it stands. It is then one word, with the path for
its text, exactly if the path is closed: where its braces match and no backslash hides the brace
behind it. A script is read as it is meant exactly if all its paths are closed and its names are
bare words (`paths_stay_words_iff`). Among the names is the stem of a testbench, which comes from a
path but has no braces. A path that is not closed, or a testbench with another stem, can bring
commands of its own into a script (`paths_bring_commands`).
-/

set_option autoImplicit false

namespace CoreTrial.Script

/-- A word without braces. -/
def word (name : String) : Token := .bare name.toList

/-- A path as a word in braces. -/
def pathToken (p : Path) : Token := .braced p.text.toList

/-- The words that read a source with this extension, before its path. -/
def readWords : Option String → List Token
  | some "sv" => [word "read_verilog", word "-sv"]
  | some "vhd" => [word "read_vhdl"]
  | some "vhdl" => [word "read_vhdl"]
  | _ => [word "read_verilog"]

/-- The words that read a source, before its path. -/
def readTokens (source : Path) : List Token :=
  readWords (source.extension?.map fun e => String.ofList (e.toList.map Char.toLower))

/-- The commands that a synthesis is meant to be. -/
def synthesisTokens (sources : List Path) (top part : String) (buildDir bitstream : Path) :
    List (List Token) :=
  sources.map (fun source => readTokens source ++ [pathToken source]) ++ [
    [word "synth_design", word "-top", word top, word "-part",
      word part],
    [word "opt_design"],
    [word "place_design"],
    [word "route_design"],
    [word "report_utilization", word "-file",
      pathToken (buildDir.child Metric.utilization.reportFile)],
    [word "report_timing_summary", word "-file",
      pathToken (buildDir.child Metric.timing.reportFile)],
    [word "report_power", word "-file",
      pathToken (buildDir.child Metric.power.reportFile)],
    [word "write_bitstream", word "-force", pathToken bitstream]]

/-- The paths of a synthesis, in order. -/
def synthesisPaths (sources : List Path) (buildDir bitstream : Path) : List Path :=
  sources ++ [buildDir.child Metric.utilization.reportFile,
    buildDir.child Metric.timing.reportFile, buildDir.child Metric.power.reportFile, bitstream]

/-- The commands that programming a device is meant to be. -/
def programTokens (bitstream : Path) (device : Option String) (server : String) :
    List (List Token) := [
  [word "open_hw_manager"],
  [word "connect_hw_server", word "-url", word server],
  [word "open_hw_target"],
  [word "current_hw_device", .opening, word "lindex", .opening,
    word "get_hw_devices"] ++ device.toList.map (fun id => word id) ++
    [.closing, word "0", .closing],
  [word "set_property", word "PROGRAM.FILE", pathToken bitstream, .opening,
    word "current_hw_device", .closing],
  [word "program_hw_devices", .opening, word "current_hw_device", .closing],
  [word "close_hw_manager"]]

/-- The words for the mode of a simulation. -/
def modeTokens : SimulationKind → List Token
  | .behavioral => [word "behavioral"]
  | .postSynthesis =>
    [word "post-synthesis", word "-type", word "functional"]
  | .postImplementation =>
    [word "post-implementation", word "-type", word "functional"]

/-- The name that a testbench has in a simulation. -/
def topOf (testbench : Path) : String := testbench.stem?.getD "tb"

/-- The commands that a simulation is meant to be. -/
def simulationTokens (sources : List Path) (testbench : Path) (kind : SimulationKind) :
    List (List Token) :=
  [word "create_project", word "-in_memory"] ::
    sources.map (fun source => [word "add_files", pathToken source]) ++ [
    [word "add_files", word "-fileset", word "sim_1", pathToken testbench],
    [word "set_property", word "top", word (topOf testbench), .opening,
      word "get_filesets", word "sim_1", .closing],
    [word "launch_simulation", word "-simset", word "sim_1",
      word "-mode"] ++ modeTokens kind,
    [word "run", word "all"],
    [word "close_sim"]]

/-- The texts of the words in braces, in order. -/
def bracedTexts (commands : List (List Token)) : List String :=
  commands.flatten.filterMap fun
    | .braced text => some (String.ofList text)
    | _ => none

/-- A line is read as one command of these words. -/
def ReadsAs (command : String) (tokens : List Token) : Prop :=
  ∀ before, (Reading.past before).read (command.toList ++ ['\n']) =
    some (.past (before ++ [tokens]))

theorem toList_ofCommands (commands : List String) :
    (ofCommands commands).toList = commands.flatMap fun c => c.toList ++ ['\n'] := by
  have step (script : String) :
      (commands.foldl (fun script c => script ++ c ++ "\n") script).toList =
        script.toList ++ commands.flatMap fun c => c.toList ++ ['\n'] := by
    induction commands generalizing script with
    | nil => simp
    | cons c commands ih => simp [ih]
  exact step ""

/-- A script is read line by line. -/
theorem commands?_ofCommands {commands : List String} {tokens : List (List Token)}
    (h : List.Forall₂ ReadsAs commands tokens) : commands? (ofCommands commands) = some tokens := by
  have run (before : List (List Token)) :
      (Reading.past before).read (commands.flatMap fun c => c.toList ++ ['\n']) =
        some (.past (before ++ tokens)) := by
    induction h generalizing before with
    | nil => simp [Reading.read_nil]
    | cons first rest ih =>
      rw [List.flatMap_cons, Reading.read_of_read (first before), ih, List.append_assoc]
      rfl
  rw [commands?, toList_ofCommands, run, Option.bind_some]
  exact if_pos rfl

/-- A text is one word, as long as another character ends it where it has no braces. -/
def ReadsWord (text : List Char) (t : Token) : Prop :=
  ∀ (r : Reading) (rest : List Char), r.mode = .gap → (rest.head?.any endsWord = true) →
    r.read (text ++ rest) = (r.add t .closed).read rest

theorem readsWord_braced {p : Path} (closed : Closed p.text.toList) :
    ReadsWord (braced p).toList (pathToken p) := by
  intro r rest gap _
  have text : (braced p).toList = '\x7b' :: (p.text.toList ++ ['\x7d']) := by
    simp [braced]
  rw [text, Reading.read_of_read (Reading.read_braced gap closed)]
  rfl

theorem readsWord_bare {name : String} (bare : Bare name.toList) :
    ReadsWord name.toList (word name) := by
  intro r rest gap ends
  rw [Reading.read_of_read (Reading.read_bare gap bare)]
  cases rest with
  | nil => cases ends
  | cons c rest =>
    have ends : endsWord c = true := ends
    rw [Reading.read_cons, Reading.read_cons]
    simp only [Reading.next, ends, if_true, List.reverse_reverse, Reading.add, word]

/-- A word that comes after others is read when they are. -/
theorem ReadsWord.read {r r' : Reading} {head text rest : List Char} {t : Token}
    (h : ReadsWord text t) (start : r.read head = some r') (gap : r'.mode = .gap)
    (ends : rest.head?.any endsWord = true) :
    r.read (head ++ (text ++ rest)) = (r'.add t .closed).read rest := by
  rw [Reading.read_of_read start, h r' rest gap ends]

/-- A line with one word between texts that are known. -/
theorem ReadsWord.readsAs {text : String} {t : Token} {depth : Nat} (h : ReadsWord text.toList t)
    (before after : String) (tokens all : List Token)
    (start : ∀ commands,
      (Reading.past commands).read before.toList = some ⟨commands, tokens, depth, .gap⟩)
    (ends : (after.toList ++ ['\n']).head?.any endsWord = true)
    (finish : ∀ commands,
      (⟨commands, tokens ++ [t], depth, .closed⟩ : Reading).read (after.toList ++ ['\n']) =
        some (.past (commands ++ [all]))) :
    ReadsAs (before ++ text ++ after) all := by
  intro commands
  rw [String.toList_append, String.toList_append, List.append_assoc, List.append_assoc,
    h.read (start commands) rfl ends]
  exact finish commands

/-- A line that ends in a path. -/
theorem readsAs_path (before : String) (tokens : List Token) {p : Path}
    (closed : Closed p.text.toList)
    (start : ∀ commands,
      (Reading.past commands).read before.toList = some ⟨commands, tokens, 0, .gap⟩) :
    ReadsAs (before ++ braced p) (tokens ++ [pathToken p]) := by
  have line := (readsWord_braced closed).readsAs before "" tokens (tokens ++ [pathToken p])
    start rfl fun commands => ?_
  · rwa [String.append_empty] at line
  · have filled : tokens ++ [pathToken p] ≠ [] := by simp
    simp only [String.toList_empty, List.nil_append, Reading.read_cons, Reading.read_nil,
      Reading.next, Reading.separate, filled]
    rfl

theorem readsAs_readCommand {source : Path} (closed : Closed source.text.toList) :
    ReadsAs (readCommand source) (readTokens source ++ [pathToken source]) := by
  unfold readCommand readTokens
  generalize (source.extension?.map fun e => String.ofList (e.toList.map Char.toLower)) = kind
  split
  · exact readsAs_path _ _ closed fun _ => rfl
  · exact readsAs_path _ _ closed fun _ => rfl
  · exact readsAs_path _ _ closed fun _ => rfl
  · rename_i sv vhd vhdl
    have words : readWords kind = [word "read_verilog"] := by
      unfold readWords
      split
      · exact absurd rfl sv
      · exact absurd rfl vhd
      · exact absurd rfl vhdl
      · rfl
    rw [words]
    exact readsAs_path _ _ closed fun _ => rfl

theorem readsAs_synth_design {top part : String} (bareTop : Bare top.toList)
    (barePart : Bare part.toList) :
    ReadsAs ("synth_design -top " ++ top ++ " -part " ++ part)
      [word "synth_design", word "-top", word top, word "-part", word part] := by
  intro commands
  have start : (Reading.past commands).read "synth_design -top ".toList =
      some ⟨commands, [word "synth_design", word "-top"], 0, .gap⟩ := rfl
  have between : (⟨commands, [word "synth_design", word "-top", word top], 0, .closed⟩ :
      Reading).read " -part ".toList =
        some ⟨commands, [word "synth_design", word "-top", word top, word "-part"], 0, .gap⟩ := rfl
  simp only [String.toList_append, List.append_assoc]
  rw [(readsWord_bare bareTop).read start rfl rfl]
  exact (readsWord_bare barePart).read between rfl rfl

theorem readsAs_device {id : String} (bare : Bare id.toList) :
    ReadsAs ("current_hw_device " ++ ("[lindex [get_hw_devices " ++ id ++ "] 0]"))
      [word "current_hw_device", .opening, word "lindex", .opening, word "get_hw_devices", word id,
        .closing, word "0", .closing] := by
  intro commands
  have start : (Reading.past commands).read
      ("current_hw_device ".toList ++ "[lindex [get_hw_devices ".toList) =
        some ⟨commands, [word "current_hw_device", .opening, word "lindex", .opening,
          word "get_hw_devices"], 2, .gap⟩ := rfl
  simp only [String.toList_append, List.append_assoc]
  rw [← List.append_assoc, (readsWord_bare bare).read start rfl rfl]
  rfl

theorem readsAs_launch (kind : SimulationKind) :
    ReadsAs ("launch_simulation -simset sim_1 -mode " ++ simulationMode kind)
      ([word "launch_simulation", word "-simset", word "sim_1", word "-mode"] ++
        modeTokens kind) := by
  intro commands
  have start : (Reading.past commands).read "launch_simulation -simset sim_1 -mode ".toList =
      some ⟨commands, [word "launch_simulation", word "-simset", word "sim_1", word "-mode"], 0,
        .gap⟩ := rfl
  rw [String.toList_append, List.append_assoc, Reading.read_of_read start]
  cases kind <;> rfl

/-- The words in braces of a reading are closed, whatever was read. -/
theorem closed_of_mem_bracedTexts {script : String} {commands : List (List Token)}
    (h : commands? script = some commands) {s : String} (mem : s ∈ bracedTexts commands) :
    Closed s.toList := by
  obtain ⟨t, inside, text⟩ := List.mem_filterMap.1 mem
  obtain ⟨c, command, token⟩ := List.mem_flatten.1 inside
  have sound := sound_of_commands? h c command t token
  cases t with
  | braced text' =>
    cases text
    rwa [String.toList_ofList]
  | bare _ => cases text
  | opening => cases text
  | closing => cases text

theorem bracedTexts_cons (c : List Token) (commands : List (List Token)) :
    bracedTexts (c :: commands) = bracedTexts [c] ++ bracedTexts commands := by
  simp [bracedTexts]

theorem bracedTexts_append (commands others : List (List Token)) :
    bracedTexts (commands ++ others) = bracedTexts commands ++ bracedTexts others := by
  simp [bracedTexts]

/-- Sources of which each is the one word in braces of its command. -/
theorem bracedTexts_map {words : Path → List Token} (sources : List Path)
    (h : ∀ source, bracedTexts [words source] = [source.text]) :
    bracedTexts (sources.map words) = sources.map (·.text) := by
  induction sources with
  | nil => rfl
  | cons source sources ih => rw [List.map_cons, bracedTexts_cons, h, ih]; rfl

theorem bracedTexts_synthesis (sources : List Path) (top part : String)
    (buildDir bitstream : Path) :
    bracedTexts (synthesisTokens sources top part buildDir bitstream) =
      (synthesisPaths sources buildDir bitstream).map (·.text) := by
  have source (p : Path) : bracedTexts [readTokens p ++ [pathToken p]] = [p.text] := by
    unfold readTokens readWords
    split <;> simp [bracedTexts, word, pathToken]
  rw [synthesisTokens, bracedTexts_append, bracedTexts_map sources source, synthesisPaths,
    List.map_append]
  simp [bracedTexts, word, pathToken]

theorem bracedTexts_program (bitstream : Path) (device : Option String) (server : String) :
    bracedTexts (programTokens bitstream device server) = [bitstream.text] := by
  cases device <;> simp [programTokens, bracedTexts, word, pathToken]

theorem bracedTexts_simulation (sources : List Path) (testbench : Path) (kind : SimulationKind) :
    bracedTexts (simulationTokens sources testbench kind) =
      (sources ++ [testbench]).map (·.text) := by
  have source (p : Path) : bracedTexts [[word "add_files", pathToken p]] = [p.text] := by
    simp [bracedTexts, word, pathToken]
  rw [simulationTokens, List.cons_append, bracedTexts_cons, bracedTexts_append,
    bracedTexts_map sources source, List.map_append]
  cases kind <;> simp [bracedTexts, word, pathToken, modeTokens]

section Scripts

variable {sources : List Path} {top part server : String} {buildDir bitstream testbench : Path}
  {device : Option String} {kind : SimulationKind}

/-- The commands of sources, each of which is read with its path. -/
theorem forall₂_readsAs_map {command : Path → String} {words : Path → List Token}
    (reads : ∀ source : Path, Closed source.text.toList → ReadsAs (command source) (words source))
    (closed : ∀ p ∈ sources, Closed p.text.toList) :
    List.Forall₂ ReadsAs (sources.map command) (sources.map words) := by
  rw [List.forall₂_map_left_iff, List.forall₂_map_right_iff, List.forall₂_same]
  exact fun p mem => reads p (closed p mem)

theorem commands?_synthesis
    (closed : ∀ p ∈ synthesisPaths sources buildDir bitstream, Closed p.text.toList)
    (bareTop : Bare top.toList) (barePart : Bare part.toList) :
    commands? (synthesis sources top part buildDir bitstream) =
      some (synthesisTokens sources top part buildDir bitstream) := by
  rw [synthesisPaths, List.forall_mem_append] at closed
  obtain ⟨ofSources, others⟩ := closed
  simp only [List.forall_mem_cons] at others
  obtain ⟨ofUtilization, ofTiming, ofPower, ofBitstream, -⟩ := others
  have reads := forall₂_readsAs_map (fun _ => readsAs_readCommand) ofSources
  have design := readsAs_synth_design bareTop barePart
  have opt : ReadsAs "opt_design" [word "opt_design"] := fun _ => rfl
  have place : ReadsAs "place_design" [word "place_design"] := fun _ => rfl
  have route : ReadsAs "route_design" [word "route_design"] := fun _ => rfl
  have utilization := readsAs_path "report_utilization -file "
    [word "report_utilization", word "-file"] ofUtilization fun _ => rfl
  have timing := readsAs_path "report_timing_summary -file "
    [word "report_timing_summary", word "-file"] ofTiming fun _ => rfl
  have power := readsAs_path "report_power -file "
    [word "report_power", word "-file"] ofPower fun _ => rfl
  have write := readsAs_path "write_bitstream -force "
    [word "write_bitstream", word "-force"] ofBitstream fun _ => rfl
  refine commands?_ofCommands (List.rel_append reads ?_)
  refine .cons design (.cons opt (.cons place (.cons route ?_)))
  exact .cons utilization (.cons timing (.cons power (.cons write .nil)))

/-- The choice of a device, also of none. -/
theorem readsAs_current :
    (∀ id ∈ device, Bare id.toList) → ReadsAs ("current_hw_device " ++ match device with
        | some id => "[lindex [get_hw_devices " ++ id ++ "] 0]"
        | none => "[lindex [get_hw_devices] 0]")
      ([word "current_hw_device", .opening, word "lindex", .opening, word "get_hw_devices"] ++
        device.toList.map (fun id => word id) ++ [.closing, word "0", .closing]) := by
  intro bare
  cases device with
  | none =>
    intro commands
    have start : (Reading.past commands).read "current_hw_device ".toList =
        some ⟨commands, [word "current_hw_device"], 0, .gap⟩ := rfl
    rw [String.toList_append, List.append_assoc, Reading.read_of_read start]
    rfl
  | some id => exact readsAs_device (bare id rfl)

theorem commands?_program (closed : Closed bitstream.text.toList)
    (bareDevice : ∀ id ∈ device, Bare id.toList) (bareServer : Bare server.toList) :
    commands? (program bitstream device server) =
      some (programTokens bitstream device server) := by
  have openManager : ReadsAs "open_hw_manager" [word "open_hw_manager"] := fun _ => rfl
  have connect := (readsWord_bare bareServer).readsAs "connect_hw_server -url " ""
    [word "connect_hw_server", word "-url"]
    [word "connect_hw_server", word "-url", word server] (fun _ => rfl) rfl fun _ => rfl
  rw [String.append_empty] at connect
  have openTarget : ReadsAs "open_hw_target" [word "open_hw_target"] := fun _ => rfl
  have current := readsAs_current bareDevice
  have set := (readsWord_braced closed).readsAs "set_property PROGRAM.FILE "
    " [current_hw_device]" [word "set_property", word "PROGRAM.FILE"]
    [word "set_property", word "PROGRAM.FILE", pathToken bitstream, .opening,
      word "current_hw_device", .closing] (fun _ => rfl) rfl fun _ => rfl
  have program : ReadsAs "program_hw_devices [current_hw_device]"
      [word "program_hw_devices", .opening, word "current_hw_device", .closing] := fun _ => rfl
  have close : ReadsAs "close_hw_manager" [word "close_hw_manager"] := fun _ => rfl
  refine commands?_ofCommands ?_
  refine .cons openManager (.cons connect (.cons openTarget (.cons current ?_)))
  exact .cons set (.cons program (.cons close .nil))

theorem commands?_simulation (closed : ∀ p ∈ sources ++ [testbench], Closed p.text.toList)
    (bare : Bare (topOf testbench).toList) :
    commands? (simulation sources testbench kind) =
      some (simulationTokens sources testbench kind) := by
  rw [List.forall_mem_append, List.forall_mem_singleton] at closed
  obtain ⟨ofSources, ofTestbench⟩ := closed
  have create : ReadsAs "create_project -in_memory" [word "create_project", word "-in_memory"] :=
    fun _ => rfl
  have reads := forall₂_readsAs_map (fun _ ofSource =>
    readsAs_path "add_files " [word "add_files"] ofSource fun _ => rfl) ofSources
  have add := readsAs_path "add_files -fileset sim_1 "
    [word "add_files", word "-fileset", word "sim_1"] ofTestbench fun _ => rfl
  have set := (readsWord_bare bare).readsAs "set_property top " " [get_filesets sim_1]"
    [word "set_property", word "top"]
    [word "set_property", word "top", word (topOf testbench), .opening, word "get_filesets",
      word "sim_1", .closing] (fun _ => rfl) rfl fun _ => rfl
  have launch := readsAs_launch kind
  have run : ReadsAs "run all" [word "run", word "all"] := fun _ => rfl
  have close : ReadsAs "close_sim" [word "close_sim"] := fun _ => rfl
  refine commands?_ofCommands (.cons create (List.rel_append reads ?_))
  exact .cons add (.cons set (.cons launch (.cons run (.cons close .nil))))

/-- Paths that are the words in braces of a reading are closed. -/
theorem closed_of_bracedTexts {script : String} {commands : List (List Token)} {paths : List Path}
    (read : commands? script = some commands) (texts : bracedTexts commands = paths.map (·.text)) :
    ∀ p ∈ paths, Closed p.text.toList := by
  intro p mem
  have inTexts : p.text ∈ bracedTexts commands := by
    rw [texts]
    exact List.mem_map_of_mem mem
  exact closed_of_mem_bracedTexts read inTexts

/-- A word without braces that a reading has is bare. -/
theorem bare_of_mem {script name : String} {commands : List (List Token)} {c : List Token}
    (read : commands? script = some commands) (command : c ∈ commands) (token : word name ∈ c) :
    Bare name.toList :=
  sound_of_commands? read c command _ token

theorem commands?_synthesis_iff :
    commands? (synthesis sources top part buildDir bitstream) =
        some (synthesisTokens sources top part buildDir bitstream) ↔
      (∀ p ∈ synthesisPaths sources buildDir bitstream, Closed p.text.toList) ∧
        Bare top.toList ∧ Bare part.toList := by
  constructor
  · intro read
    have design : [word "synth_design", word "-top", word top, word "-part", word part] ∈
        synthesisTokens sources top part buildDir bitstream :=
      List.mem_append_right _ List.mem_cons_self
    have closed := closed_of_bracedTexts read (bracedTexts_synthesis ..)
    exact ⟨closed, bare_of_mem read design (by simp), bare_of_mem read design (by simp)⟩
  · rintro ⟨closed, bareTop, barePart⟩
    exact commands?_synthesis closed bareTop barePart

theorem commands?_program_iff :
    commands? (program bitstream device server) = some (programTokens bitstream device server) ↔
      Closed bitstream.text.toList ∧ (∀ id ∈ device, Bare id.toList) ∧ Bare server.toList := by
  constructor
  · intro read
    have closed : ∀ p ∈ [bitstream], Closed p.text.toList :=
      closed_of_bracedTexts read (bracedTexts_program ..)
    refine ⟨closed bitstream List.mem_cons_self, ?_, ?_⟩
    · rintro id ⟨⟩
      exact bare_of_mem (c := [word "current_hw_device", .opening, word "lindex", .opening,
        word "get_hw_devices", word id, .closing, word "0", .closing]) read
        (by simp [programTokens]) (by simp)
    · exact bare_of_mem (c := [word "connect_hw_server", word "-url", word server]) read
        (by simp [programTokens]) (by simp)
  · rintro ⟨closed, bareDevice, bareServer⟩
    exact commands?_program closed bareDevice bareServer

theorem commands?_simulation_iff :
    commands? (simulation sources testbench kind) =
        some (simulationTokens sources testbench kind) ↔
      (∀ p ∈ sources ++ [testbench], Closed p.text.toList) ∧ Bare (topOf testbench).toList := by
  constructor
  · intro read
    have set : [word "set_property", word "top", word (topOf testbench), .opening,
        word "get_filesets", word "sim_1", .closing] ∈ simulationTokens sources testbench kind :=
      List.mem_append_right _ (List.mem_cons_of_mem _ List.mem_cons_self)
    have closed := closed_of_bracedTexts read (bracedTexts_simulation ..)
    exact ⟨closed, bare_of_mem read set (by simp)⟩
  · rintro ⟨closed, bare⟩
    exact commands?_simulation closed bare

end Scripts

/-- A script is read as it is meant exactly if its paths are closed and its names are bare words.
Then each of its paths is the text of one word in braces, the paths stand in their order, and how
many commands there are is fixed by how many sources there are. -/
theorem paths_stay_words_iff (sources : List Path) (top part server : String)
    (buildDir bitstream testbench : Path) (device : Option String) (kind : SimulationKind) :
    ((commands? (synthesis sources top part buildDir bitstream) =
          some (synthesisTokens sources top part buildDir bitstream) ↔
        (∀ p ∈ synthesisPaths sources buildDir bitstream, Closed p.text.toList) ∧
          Bare top.toList ∧ Bare part.toList) ∧
      bracedTexts (synthesisTokens sources top part buildDir bitstream) =
        (synthesisPaths sources buildDir bitstream).map (·.text) ∧
      (synthesisTokens sources top part buildDir bitstream).length = sources.length + 8) ∧
    ((commands? (program bitstream device server) =
          some (programTokens bitstream device server) ↔
        Closed bitstream.text.toList ∧ (∀ id ∈ device, Bare id.toList) ∧ Bare server.toList) ∧
      bracedTexts (programTokens bitstream device server) = [bitstream.text] ∧
      (programTokens bitstream device server).length = 7) ∧
    ((commands? (simulation sources testbench kind) =
          some (simulationTokens sources testbench kind) ↔
        (∀ p ∈ sources ++ [testbench], Closed p.text.toList) ∧ Bare (topOf testbench).toList) ∧
      bracedTexts (simulationTokens sources testbench kind) =
        (sources ++ [testbench]).map (·.text) ∧
      (simulationTokens sources testbench kind).length = sources.length + 6) := by
  have synthesisLength :
      (synthesisTokens sources top part buildDir bitstream).length = sources.length + 8 := by
    simp [synthesisTokens]
  have simulationLength :
      (simulationTokens sources testbench kind).length = sources.length + 6 := by
    simp [simulationTokens]
  exact ⟨⟨commands?_synthesis_iff, bracedTexts_synthesis .., synthesisLength⟩,
    ⟨commands?_program_iff, bracedTexts_program .., rfl⟩,
    commands?_simulation_iff, bracedTexts_simulation .., simulationLength⟩

/-- A testbench brings a command by its stem though its path is closed, and a source that is not
closed brings two: its command reads one file, and one more command reads another. -/
theorem paths_bring_commands :
    ((commands? (simulation [] ⟨"tb.v"⟩ .behavioral)).map List.length = some 6 ∧
      Closed "tb;exit.v".toList ∧
      (commands? (simulation [] ⟨"tb;exit.v"⟩ .behavioral)).map List.length = some 7) ∧
    (commands? (synthesis [⟨"a.v\x7d\nexit\nread_verilog \x7bb.v"⟩] "Top" "p" ⟨"build"⟩
        ⟨"build/Top.bit"⟩)).map (fun c => (c.length, (bracedTexts c).take 2)) =
      some (1 + 8 + 2, ["a.v", "b.v"]) := by
  refine ⟨⟨?_, by decide, ?_⟩, ?_⟩
  all_goals
    simp only [simulation, synthesis, commands?, toList_ofCommands]
    decide +kernel

end CoreTrial.Script
