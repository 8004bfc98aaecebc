import CoreTrial.Artifact

/-!
# Tool scripts

The Tcl scripts that drive the synthesis tool: one synthesizes a design, one programs a device,
one runs a testbench. Every path stands between braces.
-/

set_option autoImplicit false

namespace CoreTrial.Script

/-- A path between braces. -/
def braced (p : Path) : String :=
  "\x7b" ++ p.text ++ "\x7d"

/-- The command that reads a source, by the extension of its name. -/
def readCommand (source : Path) : String :=
  match source.extension?.map fun e => String.ofList (e.toList.map Char.toLower) with
  | some "sv" => "read_verilog -sv " ++ braced source
  | some "vhd" => "read_vhdl " ++ braced source
  | some "vhdl" => "read_vhdl " ++ braced source
  | _ => "read_verilog " ++ braced source

/-- Commands, one a line. -/
def ofCommands (commands : List String) : String :=
  commands.foldl (fun script c => script ++ c ++ "\n") ""

/-- The commands that synthesize sources, report on the design and write its bitstream. -/
def synthesisCommands (sources : List Path) (top part : String) (buildDir bitstream : Path) :
    List String :=
  sources.map readCommand ++ [
    "synth_design -top " ++ top ++ " -part " ++ part,
    "opt_design",
    "place_design",
    "route_design",
    "report_utilization -file " ++ braced (buildDir.child Metric.utilization.reportFile),
    "report_timing_summary -file " ++ braced (buildDir.child Metric.timing.reportFile),
    "report_power -file " ++ braced (buildDir.child Metric.power.reportFile),
    "write_bitstream -force " ++ braced bitstream]

/-- The script that synthesizes a design. -/
def synthesis (sources : List Path) (top part : String) (buildDir bitstream : Path) : String :=
  ofCommands (synthesisCommands sources top part buildDir bitstream)

/-- The commands that program a device; without a device, the first one. -/
def programCommands (bitstream : Path) (device : Option String) (server : String) : List String :=
  let chosen := match device with
    | some id => "[lindex [get_hw_devices " ++ id ++ "] 0]"
    | none => "[lindex [get_hw_devices] 0]"
  ["open_hw_manager",
    "connect_hw_server -url " ++ server,
    "open_hw_target",
    "current_hw_device " ++ chosen,
    "set_property PROGRAM.FILE " ++ braced bitstream ++ " [current_hw_device]",
    "program_hw_devices [current_hw_device]",
    "close_hw_manager"]

/-- The script that programs a device. -/
def program (bitstream : Path) (device : Option String) (server : String) : String :=
  ofCommands (programCommands bitstream device server)

/-- The mode of a simulation. -/
def simulationMode : SimulationKind → String
  | .behavioral => "behavioral"
  | .postSynthesis => "post-synthesis -type functional"
  | .postImplementation => "post-implementation -type functional"

/-- The commands that run a testbench on sources. -/
def simulationCommands (sources : List Path) (testbench : Path) (kind : SimulationKind) :
    List String :=
  "create_project -in_memory" :: sources.map (fun s => "add_files " ++ braced s) ++ [
    "add_files -fileset sim_1 " ++ braced testbench,
    "set_property top " ++ testbench.stem?.getD "tb" ++ " [get_filesets sim_1]",
    "launch_simulation -simset sim_1 -mode " ++ simulationMode kind,
    "run all",
    "close_sim"]

/-- The script that runs a testbench. -/
def simulation (sources : List Path) (testbench : Path) (kind : SimulationKind) : String :=
  ofCommands (simulationCommands sources testbench kind)

end CoreTrial.Script
