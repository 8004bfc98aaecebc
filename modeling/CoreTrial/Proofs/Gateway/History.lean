import CoreTrial.Proofs.Activity.Ends
import CoreTrial.Proofs.Activity.Pauses
import CoreTrial.Proofs.Gateway.Serve
import CoreTrial.Proofs.Log
import CoreTrial.Proofs.Path

/-!
# What a gateway knows after its history

A gateway is asked for one thing after the other, and meanwhile others create and delete files. Some
requests are dropped before they are answered. Through all of this either gateway knows exactly the
bitstreams of the syntheses that it answered (`Account.knows_iff`).
-/

set_option autoImplicit false

namespace CoreTrial

namespace Gateway

/-- What becomes of the workbench of a gateway that starts with no memory, with all that it has
answered: requests are answered or dropped, at any time, and others change the files. The known
bitstreams are a set, whose order may be another one whenever it is looked at. -/
inductive Account (g : Gateway Workbench) : List Exchange → Workbench → Prop
  | start (files : FileSystem) : Account g [] ⟨files, .empty⟩
  | edit {log : List Exchange} {w : Workbench} (h : Account g log w) (files : FileSystem) :
      Account g log { w with files }
  | answered {log : List Exchange} {w w' : Workbench} {q : Request} {r : Except ToolError Answer}
      {now later : Duration} (h : Account g log w) (ends : (g.serve q).Ends now w r later w') :
      Account g (log ++ [⟨q, r, w'.files⟩]) w'
  | dropped {log : List Exchange} {w w' : Workbench} {q : Request} {now later : Duration}
      (h : Account g log w) (waits : (later, w') ∈ (g.serve q now w).pauses now) :
      Account g log w'
  | reordered {log : List Exchange} {w : Workbench} {known : List Path} (h : Account g log w)
      (perm : known.Perm w.memory.produced) :
      Account g log { w with memory := { w.memory with produced := known } }

/-- The artifacts that were answered. -/
def artifacts (log : List Exchange) : List SynthesisArtifact :=
  log.filterMap fun x => Answer.artifact? x.answer

theorem artifacts_snoc (log : List Exchange) (x : Exchange) :
    artifacts (log ++ [x]) = artifacts log ++ (Answer.artifact? x.answer).toList :=
  Log.filterMap_snoc _ log x

end Gateway

open Gateway (Exchange Request)

namespace GatewayMemory

/-- Once a synthesis is remembered, its bitstream is known beside those that were known before. -/
theorem mem_rememberSynthesis {m : GatewayMemory} {a : SynthesisArtifact} {sources : List Path}
    {log : String} {p : Path} (h : p ∈ (m.rememberSynthesis a sources log).produced) :
    p ∈ m.produced ∨ p = a.bitstream := by
  unfold rememberSynthesis at h
  dsimp only at h
  split at h
  · exact .inl h
  · rcases List.mem_append.1 h with known | new
    · exact .inl known
    · exact .inr (List.mem_singleton.1 new)

/-- A path is known when it is the same path as one that was produced. -/
def Knows (m : GatewayMemory) (p : Path) : Prop :=
  ∃ k ∈ m.produced, p.same k = true

theorem knows_rememberSynthesis_iff (m : GatewayMemory) (a : SynthesisArtifact)
    (sources : List Path) (log : String) (p : Path) :
    (m.rememberSynthesis a sources log).Knows p ↔ m.Knows p ∨ p.same a.bitstream = true := by
  unfold Knows rememberSynthesis
  dsimp only
  split
  · rename_i known
    obtain ⟨k, hk, same⟩ := List.any_eq_true.1 known
    constructor
    · exact .inl
    · rintro (found | again)
      · exact found
      · refine ⟨k, hk, ?_⟩
        rw [Path.same_iff] at again same ⊢
        exact again.trans same
  · simp [or_and_right, exists_or]

end GatewayMemory

/-- Only an artifact that is answered becomes known, and it does by then. -/
theorem ToolchainSettings.Serves.produced {s : ToolchainSettings} {epoch : Timestamp} {q : Request}
    {now : Duration} {w b : Workbench} {r : Except ToolError Gateway.Answer}
    (h : s.Serves epoch q now w b r) :
    match Gateway.Answer.artifact? r with
    | some a => ∃ sources log, b.memory = w.memory.rememberSynthesis a sources log
    | none => b.memory.produced = w.memory.produced := by
  obtain ⟨memory, fits, -⟩ := h
  rw [memory]
  cases r with
  | error e =>
    rw [ToolchainSettings.noted_error]
    rfl
  | ok answer =>
    have fit := fits answer rfl
    cases q with
    | synthesize sources top part =>
      cases answer with
      | artifact a => exact ⟨sources, _, rfl⟩
      | _ => exact fit.elim
    | flash bitstream device =>
      cases answer with
      | confirmation c => rfl
      | _ => exact fit.elim
    | analyze metric =>
      cases answer with
      | report report => rfl
      | _ => exact fit.elim
    | verify testbench kind =>
      cases answer with
      | verification v => rfl
      | _ => exact fit.elim

namespace Gateway.Account

variable {s : ToolchainSettings} {launcher : Launcher} {epoch : Timestamp} {log : List Exchange}
  {w : Workbench}

/-- What holds before any request, and is kept when one more artifact is remembered and when the
known bitstreams change places, holds of the artifacts and the known bitstreams of every history. -/
theorem produced_induction {P : List SynthesisArtifact → List Path → Prop}
    (account : (s.gateway launcher epoch).Account log w) (start : P [] [])
    (remember : ∀ (made : List SynthesisArtifact) (m : GatewayMemory) (a : SynthesisArtifact)
      (sources : List Path) (log : String), P made m.produced →
        P (made ++ [a]) (m.rememberSynthesis a sources log).produced)
    (reorder : ∀ (made : List SynthesisArtifact) (known known' : List Path), known'.Perm known →
      P made known → P made known') : P (artifacts log) w.memory.produced := by
  induction account with
  | start files => exact start
  | edit _ files ih => exact ih
  | @answered log w w' q r now later _ ends ih =>
    have memory := ((s.serve_meets launcher epoch q now w).finish ends).produced
    rw [artifacts_snoc]
    dsimp only
    cases answer : Answer.artifact? r with
    | none =>
      rw [answer] at memory
      rw [memory, Option.toList_none, List.append_nil]
      exact ih
    | some a =>
      rw [answer] at memory
      obtain ⟨sources, text, memory⟩ := memory
      rw [memory]
      exact remember _ w.memory a sources text ih
  | @dropped log w w' q now later _ waits ih =>
    have memory := (s.serve_meets launcher epoch q now w).of_mem_pauses waits
    rwa [memory]
  | reordered _ perm ih => exact reorder _ _ _ perm ih

/-- All bitstreams that are known were answered. -/
theorem exists_of_mem_produced (account : (s.gateway launcher epoch).Account log w) {k : Path}
    (hk : k ∈ w.memory.produced) : ∃ a ∈ artifacts log, a.bitstream = k := by
  refine account.produced_induction
    (P := fun made known => k ∈ known → ∃ a ∈ made, a.bitstream = k)
    (fun hk => by cases hk) ?_ (fun made known known' perm ih hk => ih (perm.mem_iff.1 hk)) hk
  intro made m a sources log ih hk
  rcases GatewayMemory.mem_rememberSynthesis hk with known | new
  · obtain ⟨a', ha, same⟩ := ih known
    exact ⟨a', List.mem_append_left _ ha, same⟩
  · exact ⟨a, List.mem_append_right _ (List.mem_singleton_self a), new.symm⟩

/-- The paths that are known are those of the bitstreams that were answered. -/
theorem knows_iff (account : (s.gateway launcher epoch).Account log w) (p : Path) :
    w.memory.Knows p ↔ ∃ a ∈ artifacts log, p.same a.bitstream = true := by
  refine account.produced_induction (P := fun made known =>
    (∃ k ∈ known, p.same k = true) ↔ ∃ a ∈ made, p.same a.bitstream = true) (by simp) ?_ ?_
  · intro made m a sources log ih
    refine (GatewayMemory.knows_rememberSynthesis_iff m a sources log p).trans ?_
    rw [GatewayMemory.Knows, ih]
    simp [or_and_right, exists_or]
  · intro made known known' perm ih
    rw [← ih]
    simp [perm.mem_iff]

/-- No two of the known bitstreams are the same path. -/
theorem pairwise_produced (account : (s.gateway launcher epoch).Account log w) :
    w.memory.produced.Pairwise fun p q => p.same q = false := by
  refine account.produced_induction
    (P := fun _ known => known.Pairwise fun p q => p.same q = false) .nil ?_ ?_
  · intro made m a sources log ih
    rw [GatewayMemory.rememberSynthesis]
    dsimp only
    split
    · exact ih
    · rename_i new
      refine List.pairwise_append.2 ⟨ih, List.pairwise_singleton _ _, fun p mem q last => ?_⟩
      rw [List.mem_singleton.1 last, Path.same_comm]
      exact Bool.eq_false_iff.2 (List.any_eq_false.1 (Bool.eq_false_iff.2 new) p mem)
  · intro made known known' perm ih
    exact (perm.pairwise_iff fun apart => (Path.same_comm _ _).trans apart).2 ih

end Gateway.Account

end CoreTrial
