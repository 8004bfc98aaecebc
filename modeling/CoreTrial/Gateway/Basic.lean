import CoreTrial.Activity
import CoreTrial.Gateway.Memory

/-!
# Gateways

A gateway is a toolchain as a run sees it: it synthesizes designs, programs devices, reports on
designs and runs testbenches. Its calls work on a world and take time.
-/

set_option autoImplicit false

namespace CoreTrial

/-- The calls of a toolchain. -/
structure Gateway (σ : Type) where
  /-- Sources, the name of the top module, and the device's part number. -/
  synthesize : List Path → String → String → Work σ (Except ToolError SynthesisArtifact)
  /-- A bitstream and a device. -/
  flash : Path → Option String → Work σ (Except ToolError FlashConfirmation)
  /-- The name of a metric. -/
  analyze : String → Work σ (Except ToolError AnalysisReport)
  /-- A testbench and the design it is run on. -/
  verify : Path → SimulationKind → Work σ (Except ToolError VerificationReport)

/-- Where a gateway works: the files, and what it remembers. -/
structure Workbench where
  files : FileSystem
  memory : GatewayMemory

namespace Gateway

/-- The gateway as part of a larger world. -/
def on {σ τ : Type} (get : τ → σ) (put : σ → τ → τ) (g : Gateway σ) : Gateway τ where
  synthesize sources top part := (g.synthesize sources top part).on get put
  flash bitstream device := (g.flash bitstream device).on get put
  analyze metric := (g.analyze metric).on get put
  verify testbench kind := (g.verify testbench kind).on get put

end Gateway

end CoreTrial
