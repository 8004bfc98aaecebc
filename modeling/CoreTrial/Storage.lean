import CoreTrial.Gateway.Memory
import CoreTrial.Run.Draft
import CoreTrial.Text.Utf8

/-!
# What is stored

The system takes any bytes for a path, and a record may have such paths in it. It can be written
only where all of them are text: one that is not ends the writing. A record that is read has paths
that are text.
-/

set_option autoImplicit false

namespace CoreTrial

/-- A path as the system has it: any bytes. -/
structure OsPath where
  bytes : ByteArray

/-- The path as the system has it. -/
def Path.toOs (p : Path) : OsPath := ⟨p.text.toUTF8⟩

namespace OsPath

/-- The bytes are those of a text. -/
def IsText (p : OsPath) : Prop := p.bytes.IsValidUTF8

instance : DecidablePred IsText := fun p => inferInstanceAs (Decidable p.bytes.IsValidUTF8)

/-- The path as text; what is none has replacement characters. -/
def toPath (p : OsPath) : Path := ⟨Text.decodeLossy p.bytes⟩

end OsPath

/-- A kind of record with paths in it. -/
class Stored (F : Type → Type) where
  /-- All paths of a record. -/
  paths {π : Type} : F π → List π
  /-- The record with each path replaced. -/
  mapPaths {π ρ : Type} : (π → ρ) → F π → F ρ
  paths_mapPaths {π ρ : Type} (f : π → ρ) (r : F π) : paths (mapPaths f r) = (paths r).map f
  /-- A record has no other paths. -/
  mapPaths_mapPaths {π ρ : Type} {f : π → ρ} {g : ρ → π} {r : F π} :
    (∀ p ∈ paths r, g (f p) = p) → mapPaths g (mapPaths f r) = r
  toJson : F Path → Json
  ofJson? : Json → Option (F Path)

namespace Stored

variable {F : Type → Type} [Stored F]

/-- What is written of a record, when each of its paths is text. -/
def write? (r : F OsPath) : Option Json :=
  if ∀ p ∈ paths r, p.IsText then some (toJson (mapPaths OsPath.toPath r)) else none

/-- Reads a record. -/
def read? (j : Json) : Option (F OsPath) :=
  (ofJson? j).map (mapPaths Path.toOs)

variable {π ρ : Type} {f : π → ρ} {g : ρ → π}

theorem paths_map (f : π → ρ) (o : Option (F π)) :
    (o.map (mapPaths f)).toList.flatMap paths = (o.toList.flatMap paths).map f := by
  rw [Option.toList_map, List.flatMap_map, List.map_flatMap]
  exact congrArg (o.toList.flatMap ·) (funext fun r => paths_mapPaths f r)

theorem paths_sortedMap (f : π → ρ) (m : SortedMap (F π)) :
    ((m.map (mapPaths f)).entries.flatMap fun e => paths e.2) =
      (m.entries.flatMap fun e => paths e.2).map f := by
  rw [SortedMap.map, List.flatMap_map, List.map_flatMap]
  exact congrArg (m.entries.flatMap ·) (funext fun e => paths_mapPaths f e.2)

/-- A record that may be absent. -/
theorem map_mapPaths_mapPaths {o : Option (F π)}
    (back : ∀ p ∈ o.toList.flatMap paths, g (f p) = p) :
    (o.map (mapPaths f)).map (mapPaths g) = o := by
  cases o with
  | none => rfl
  | some r =>
    refine congrArg some (mapPaths_mapPaths fun p mem => back p ?_)
    rwa [Option.toList_some, List.flatMap_singleton]

/-- The records in a map. -/
theorem sortedMap_mapPaths_mapPaths {m : SortedMap (F π)}
    (back : ∀ p ∈ m.entries.flatMap fun e => paths e.2, g (f p) = p) :
    (m.map (mapPaths f)).map (mapPaths g) = m := by
  refine SortedMap.map_map_of_inverse fun e mem => mapPaths_mapPaths fun p there => back p ?_
  exact List.mem_flatMap.2 ⟨e, mem, there⟩

end Stored

instance : Stored @SynthesisArtifact where
  paths a := [a.bitstream, a.log]
  mapPaths f a := { a with bitstream := f a.bitstream, log := f a.log }
  paths_mapPaths _ _ := rfl
  mapPaths_mapPaths {_ _ f g r} back := by
    have bitstream := back r.bitstream List.mem_cons_self
    have log := back r.log (List.mem_cons_of_mem _ List.mem_cons_self)
    dsimp only
    rw [bitstream, log]
  toJson := SynthesisArtifact.toJson
  ofJson? := SynthesisArtifact.ofJson?

instance : Stored @FlashConfirmation where
  paths c := [c.bitstream]
  mapPaths f c := { c with bitstream := f c.bitstream }
  paths_mapPaths _ _ := rfl
  mapPaths_mapPaths {_ _ f g r} back := by
    dsimp only
    rw [back r.bitstream List.mem_cons_self]
  toJson := FlashConfirmation.toJson
  ofJson? := FlashConfirmation.ofJson?

instance : Stored @VerificationReport where
  paths r := [r.testbench]
  mapPaths f r := { r with testbench := f r.testbench }
  paths_mapPaths _ _ := rfl
  mapPaths_mapPaths {_ _ f g r} back := by
    dsimp only
    rw [back r.testbench List.mem_cons_self]
  toJson := VerificationReport.toJson
  ofJson? := VerificationReport.ofJson?

instance : Stored @GatewayStatus where
  paths s := s.lastBitstream.toList ++ s.verifications.entries.flatMap fun e => Stored.paths e.2
  mapPaths f s :=
    { s with
      lastBitstream := s.lastBitstream.map f
      verifications := s.verifications.map (Stored.mapPaths f) }
  paths_mapPaths f s := by
    dsimp only
    rw [Option.toList_map, Stored.paths_sortedMap, List.map_append]
  mapPaths_mapPaths {_ _ f g s} back := by
    have bitstream : (s.lastBitstream.map f).map g = s.lastBitstream := by
      cases last : s.lastBitstream with
      | none => rfl
      | some p =>
        refine congrArg some (back p (List.mem_append_left _ ?_))
        rw [last]
        exact List.mem_cons_self
    have verifications := Stored.sortedMap_mapPaths_mapPaths fun p mem =>
      back p (List.mem_append_right _ mem)
    dsimp only
    rw [bitstream, verifications]
  toJson := GatewayStatus.toJson
  ofJson? := GatewayStatus.ofJson?

instance : Stored @Draft where
  paths d := d.artifact.toList.flatMap Stored.paths ++ d.flash.toList.flatMap Stored.paths
  mapPaths f d :=
    { d with
      artifact := d.artifact.map (Stored.mapPaths f)
      flash := d.flash.map (Stored.mapPaths f) }
  paths_mapPaths f d := by
    dsimp only
    rw [Stored.paths_map, Stored.paths_map, List.map_append]
  mapPaths_mapPaths {_ _ f g d} back := by
    have artifact := Stored.map_mapPaths_mapPaths fun p mem => back p (List.mem_append_left _ mem)
    have flash := Stored.map_mapPaths_mapPaths fun p mem => back p (List.mem_append_right _ mem)
    dsimp only
    rw [artifact, flash]
  toJson := Draft.toJson
  ofJson? := Draft.ofJson?

end CoreTrial
