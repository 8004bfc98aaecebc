import CoreTrial.Artifact
import CoreTrial.FileSystem.Basic
import CoreTrial.Gateway.Error

/-!
# What a gateway remembers

A gateway remembers the bitstreams it produced, its last synthesis, and the last outcome of each
testbench. It knows a bitstream by its path and by its file name, even when the file is gone.
-/

set_option autoImplicit false

namespace CoreTrial

/-- What a gateway has produced so far. -/
structure GatewayMemory where
  lastArtifact : Option SynthesisArtifact
  lastLog : Option String
  lastSources : List Path
  /-- The paths of all bitstreams, no two of them the same. -/
  produced : List Path
  /-- By the text of the testbench's path. -/
  verifications : SortedMap VerificationReport

namespace GatewayMemory

/-- Nothing was produced. -/
def empty : GatewayMemory where
  lastArtifact := none
  lastLog := none
  lastSources := []
  produced := []
  verifications := .empty

/-- Remembers a synthesis. -/
def rememberSynthesis (m : GatewayMemory) (artifact : SynthesisArtifact) (sources : List Path)
    (log : String) : GatewayMemory :=
  { m with
    lastArtifact := some artifact
    lastLog := some log
    lastSources := sources
    produced :=
      if m.produced.any artifact.bitstream.same then m.produced
      else m.produced ++ [artifact.bitstream] }

/-- Remembers the outcome of a testbench. -/
def rememberVerification (m : GatewayMemory) (r : VerificationReport) : GatewayMemory :=
  { m with verifications := m.verifications.insert r.testbench.text r }

/-- The bitstream that a path stands for: a file that is there, a bitstream that was produced, or
a produced bitstream of that file name. -/
def resolve (m : GatewayMemory) (fs : FileSystem) (requested : Path) : Except ToolError Path :=
  if fs.exists requested || m.produced.any requested.same then .ok requested
  else match m.produced.find? fun p => p.fileName? == some requested.text with
    | some p => .ok p
    | none => .error (.artifactNotFound requested)

end GatewayMemory

/-- A gateway's memory as it is reported. -/
structure GatewayStatus (π : Type := Path) where
  backend : String
  lastBitstream : Option π
  lastSynthesisLog : Option String
  verifications : SortedMap (VerificationReport π)

namespace GatewayStatus

/-- The report of a memory. -/
def ofMemory (backend : String) (m : GatewayMemory) : GatewayStatus where
  backend := backend
  lastBitstream := m.lastArtifact.map (·.bitstream)
  lastSynthesisLog := m.lastLog
  verifications := m.verifications

/-- The record of a status. -/
def toJson (s : GatewayStatus) : Json :=
  .object [
    ("backend", .string s.backend),
    ("last_bitstream", Json.ofOption Path.toJson s.lastBitstream),
    ("last_synthesis_log", Json.ofOption .string s.lastSynthesisLog),
    ("verification_results", Json.ofMap VerificationReport.toJson s.verifications)]

/-- Reads the record of a status. -/
def ofJson? (j : Json) : Option GatewayStatus :=
  match Json.slots? ["backend", "last_bitstream", "last_synthesis_log",
      "verification_results"] j with
  | some [backend, bitstream, log, verifications] => do
    return {
      backend := ← backend.required Json.string?
      lastBitstream := ← bitstream.optional Path.ofJson?
      lastSynthesisLog := ← log.optional Json.string?
      verifications := ← verifications.required (Json.map? VerificationReport.ofJson?) }
  | _ => none

end GatewayStatus

end CoreTrial
