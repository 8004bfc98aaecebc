import CoreTrial.Proofs.Pipeline.Yields

/-!
# The limit of a run

The limit only cuts a run. A run that ends by the limit is the run without one; any other is cut in
its first late stage, and the draft is then as the stages before have left it. The stages are found
one by one, in `late_stage`: where the first ones are late, either fewer of them are late already or
the last one is.
-/

set_option autoImplicit false

namespace CoreTrial

/-- The log of a run that is over, whether it failed or not. -/
def logOf : Except RunFailure CompletedRun → List StageOutcome
  | .ok run => run.stages
  | .error f => f.draft.stages

/-- A stage only adds to the log. -/
theorem Step.Ended.log_grows {σ α : Type} {s : Stage} {d : Draft} {b : Attempt σ}
    {r : Except StageFailure α} (h : Step.Ended s d b r) : d.stages <+: b.draft.stages := by
  cases r with
  | ok v =>
    obtain ⟨o, log, -⟩ := Draft.Advances.log h
    rw [log]
    exact List.prefix_append d.stages [o]
  | error f =>
    obtain ⟨-, halts⟩ := h
    have log := halts.log
    exact log ▸ List.prefix_refl b.draft.stages

theorem Draft.stages_of_complete {d : Draft} {score : Score} {now : Timestamp} {run : CompletedRun}
    (h : d.complete score now = .ok run) : run.stages = d.stages := by
  unfold Draft.complete at h
  split at h
  all_goals cases h
  rfl

namespace Pipeline

variable {σ : Type}

/-- All stages without a limit, and the end of the run. -/
def attemptUnlimited (p : Pipeline σ) (program : Program) :
    Work (Attempt σ) (Except RunFailure CompletedRun) := do
  let result ← (p.stages program).run
  let a ← Work.look
  let now ← Work.now
  return p.conclude a.draft (p.epoch.later now) (some result)

/-- A run without a limit. -/
def runUnlimited (p : Pipeline σ) (id : RunId) (program : Program) :
    Work σ (Except RunFailure CompletedRun) :=
  fun now world =>
    (p.attemptUnlimited program now (p.outset id program now world)).embed Attempt.world

/-- How the first `n` stages end without a limit. -/
def firstEnd? (p : Pipeline σ) (id : RunId) (program : Program) (now : Duration) (world : σ)
    (n : Nat) : Option (Attempt σ × Except StageFailure (Handed n) × Duration) :=
  ((p.first program n).run now (p.outset id program now world)).finish? now

variable (p : Pipeline σ) (program : Program)

theorem runUnlimited_apply (id : RunId) (now : Duration) (world : σ) :
    p.runUnlimited id program now world =
      (((p.first program 7).run now (p.outset id program now world)).andThen now fun r t b =>
        .done b (p.conclude b.draft (p.epoch.later t) (some r))).embed Attempt.world := by
  rw [first_all]
  rfl

variable {program} {now limit t : Duration} {a b : Attempt σ}

/-- No stage is performed after a failure. -/
theorem finish?_first_of_error {n : Nat} {f : StageFailure}
    (ends : ((p.first program n).run now a).finish? now = some (b, .error f, t)) :
    ((p.first program (n + 1)).run now a).finish? now = some (b, .error f, t) := by
  rw [first, Step.run_bind, Activity.finish?_andThen, ends]
  rfl

/-- After stages that end well, one more is performed from their end on. -/
theorem finish?_first_of_ok {n : Nat} {handed : Handed n}
    (ends : ((p.first program n).run now a).finish? now = some (b, .ok handed, t)) :
    ((p.first program (n + 1)).run now a).finish? now =
      ((p.perform program n handed).run t b).finish? t := by
  rw [first, Step.run_bind, Activity.finish?_andThen, ends]
  rfl

/-- One more stage is not performed after a failure, and follows the others otherwise. -/
theorem finish?_first_succ {n : Nat} {r : Except StageFailure (Handed (n + 1))}
    (ends : ((p.first program (n + 1)).run now a).finish? now = some (b, r, t)) :
    (∃ f, r = .error f ∧ ((p.first program n).run now a).finish? now = some (b, .error f, t)) ∨
      ∃ c handed u, ((p.first program n).run now a).finish? now = some (c, .ok handed, u) ∧
        ((p.perform program n handed).run u c).finish? u = some (b, r, t) := by
  rw [first, Step.run_bind, Activity.finish?_andThen] at ends
  obtain ⟨⟨c, q, u⟩, before, rest⟩ := Option.bind_eq_some_iff.1 ends
  cases q with
  | error f =>
    cases rest
    exact .inl ⟨f, rfl, before⟩
  | ok handed => exact .inr ⟨c, handed, u, before, rest⟩

/-- Where the first stages are late and those before the last one are not, the last one is. -/
theorem late_perform {n : Nat} {limit : Duration} {handed : Handed n}
    (late : ((p.first program (n + 1)).run now a).Late now limit)
    (ends : ((p.first program n).run now a).finish? now = some (b, .ok handed, t))
    (le : t ≤ now + limit) :
    ((p.perform program n handed).run t b).Late t (now + limit - t) := by
  rw [first, Step.run_bind] at late
  exact late.rest ends le

/-- Where the first stages are late, one of them is the first late one, and the draft is as the
stages before it have left it. -/
theorem late_stage {n : Nat} (hn : n ≤ 7)
    (late : ((p.first program n).run now a).Late now limit) :
    ∃ s : Stage, ((p.first program (s.index + 1)).run now a).Late now limit ∧
      ∃ b handed t, ((p.first program s.index).run now a).finish? now = some (b, .ok handed, t) ∧
        t ≤ now + limit ∧ (((p.first program n).run now a).pausedAt limit).draft = b.draft := by
  induction n with
  | zero => exact absurd late (Activity.not_late_done a (Except.ok ()))
  | succ n ih =>
    obtain ⟨s, rfl⟩ := Stage.exists_index_eq hn
    obtain ⟨b, r, t, ends, le⟩ | before | ⟨w, spins⟩ :=
      Activity.ends_or_late_or_spins now limit ((p.first program s.index).run now a)
    -- The stages before end by the limit, so the last one is the late one.
    · cases r with
      | error f =>
        have ended := late.ends_after b _ t (p.finish?_first_of_error ends)
        exact absurd le (Nat.not_le.2 ended)
      | ok handed =>
        have rest := p.late_perform late ends le
        refine ⟨s, late, b, handed, t, ends, le, ?_⟩
        rw [first, Step.run_bind, Activity.pausedAt_andThen ends le]
        exact (p.perform_meets program t b s handed).pausedAt rest
    -- They are late themselves, and the last one is not reached.
    · rw [first, Step.run_bind, before.pausedAt_andThen]
      exact ih (by omega) before
    -- They spin, and what follows is no more late than they are.
    · have waits := late.waits
      rw [first, Step.run_bind, Activity.spin?_within_andThen spins] at waits
      cases waits

variable (program) (id : RunId) (now : Duration) (world : σ)

/-- What some stages have recorded stays in the log of the stages after them. -/
theorem log_prefix_of_firstEnd? {m n : Nat} (le : m ≤ n) (hn : n ≤ 7) {handed : Handed m}
    {r : Except StageFailure (Handed n)} {c : Attempt σ} {u : Duration}
    (before : p.firstEnd? id program now world m = some (b, .ok handed, t))
    (ends : p.firstEnd? id program now world n = some (c, r, u)) :
    b.draft.stages <+: c.draft.stages := by
  induction n generalizing c u with
  | zero =>
    obtain rfl := Nat.le_zero.1 le
    cases before.symm.trans ends
    exact List.prefix_refl _
  | succ n ih =>
    by_cases h : m = n + 1
    · subst h
      cases before.symm.trans ends
      exact List.prefix_refl _
    · obtain ⟨f, -, earlier⟩ | ⟨d, handed', v, earlier, last⟩ := p.finish?_first_succ ends
      · exact ih (by omega) (by omega) earlier
      · have kept := ih (by omega) (by omega) earlier
        obtain ⟨s, rfl⟩ := Stage.exists_index_eq hn
        exact kept.trans ((p.perform_meets program v d s handed').finish last).log_grows

/-- The end of a run keeps the log. -/
theorem log_prefix_conclude (d : Draft) (now : Timestamp) (r : Option (Except StageFailure Score)) :
    d.stages <+: logOf (p.conclude d now r) := by
  match r with
  | none => exact List.prefix_append d.stages _
  | some (.error f) => exact List.prefix_append d.stages _
  | some (.ok score) =>
    rw [conclude]
    split
    · rename_i run complete
      have log := Draft.stages_of_complete complete
      exact log ▸ List.prefix_refl run.stages
    · exact List.prefix_append d.stages _

/-- A draft that is cut while a stage is at work is concluded as a failure of this stage. -/
theorem conclude_none {d : Draft} {s : Stage} (reached : d.Reached s.index) (now : Timestamp) :
    p.conclude d now none = .error (d.fail s (.runTimeout p.settings.runTimeout) now) := by
  rw [conclude, reached.after_lastStage?]

variable {program id now world}

theorem run_of_ends {r : Except StageFailure Score}
    (ends : p.firstEnd? id program now world 7 = some (b, r, t))
    (le : t ≤ now + p.settings.runLimit) :
    (p.run id program now world).finish? now =
      some (b.world, p.conclude b.draft (p.epoch.later t) (some r), t) := by
  rw [run_apply, Activity.finish?_embed, Activity.finish?_andThen,
    Activity.finish?_within ends le]
  rfl

theorem run_of_late
    (late : ((p.first program 7).run now (p.outset id program now world)).Late now
      p.settings.runLimit) {d : Draft}
    (cut : (((p.first program 7).run now (p.outset id program now world)).pausedAt
      p.settings.runLimit).draft = d) :
    ∃ w, (p.run id program now world).finish? now =
      some (w, p.conclude d (p.epoch.later (now + p.settings.runLimit)) none,
        now + p.settings.runLimit) := by
  rw [run_apply, Activity.finish?_embed, Activity.finish?_andThen,
    Activity.finish?_within_of_late late, ← cut]
  exact ⟨_, rfl⟩

/-- Stages that have ended well have left their draft. -/
theorem reached_of_firstEnd? {n : Nat} (hn : n ≤ 7) {handed : Handed n}
    (ends : p.firstEnd? id program now world n = some (b, .ok handed, t)) : b.draft.Reached n :=
  (p.first_meets program hn now (a := p.outset id program now world)
    (Draft.reached_begin id program (p.epoch.later now))).finish ends

/-- A run whose stages are late fails when the limit strikes, in the first stage that is late. -/
theorem cut_of_late
    (late : ((p.first program 7).run now (p.outset id program now world)).Late now
      p.settings.runLimit) :
    ∃ s : Stage, ((p.first program (s.index + 1)).run now (p.outset id program now world)).Late now
        p.settings.runLimit ∧
      ∃ b handed t w, p.firstEnd? id program now world s.index = some (b, .ok handed, t) ∧
        t ≤ now + p.settings.runLimit ∧
        (p.run id program now world).finish? now =
          some (w, .error (b.draft.fail s (.runTimeout p.settings.runTimeout)
            (p.epoch.later (now + p.settings.runLimit))), now + p.settings.runLimit) := by
  obtain ⟨s, stage, b, handed, t, ends, le, draft⟩ := p.late_stage (Nat.le_refl 7) late
  have reached := p.reached_of_firstEnd? (Nat.le_of_lt s.index_lt) ends
  obtain ⟨w, cut⟩ := p.run_of_late late draft
  rw [p.conclude_none reached] at cut
  exact ⟨s, stage, b, handed, t, w, ends, le, cut⟩

/-- Where the stages have come to spin by the limit, so has the run, with the limit and without. -/
theorem spins_of_spins {a : Attempt σ}
    (spins : (((p.first program 7).run now (p.outset id program now world)).within
      p.settings.runLimit).spin? = some a) :
    ((p.runUnlimited id program now world).within p.settings.runLimit).spin? = some a.world ∧
      (p.run id program now world).spin? = some a.world := by
  constructor
  · rw [runUnlimited_apply, ← Activity.embed_within, Activity.spin?_embed,
      Activity.spin?_within_andThen spins]
    rfl
  · rw [run_apply, Activity.spin?_embed, Activity.spin?_andThen_of_some spins]
    rfl

variable (program id now world)

end Pipeline

end CoreTrial
