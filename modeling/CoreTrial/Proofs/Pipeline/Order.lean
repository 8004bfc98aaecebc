import CoreTrial.Proofs.Log
import CoreTrial.Proofs.Pipeline.Completed
import CoreTrial.Proofs.Pipeline.Trace

/-!
# The order of a run's calls

A run asks its collaborators for one thing after the other: to build, to synthesize, to flash, to
open the channel, which it then samples, and to analyze. `Permits` says what may happen next, and
`Lawful` that nothing else has happened. A stage adds to a trace in which all calls have returned
well, so each stage is one lemma about what it adds, and `first_orderly` puts them together.
-/

set_option autoImplicit false

namespace CoreTrial

/-- The call that the event is, if it is one. -/
def Event.call? : Event → Option Call
  | .called call => some call
  | _ => none

/-- The calls of a trace. -/
def callsOf (trace : List Event) : List Call :=
  trace.filterMap Event.call?

namespace Pipeline

variable {σ : Type}

/-- What a run asks of the synthesis. -/
def synthesisCall (p : Pipeline σ) : Call :=
  .gateway (.synthesize p.settings.hdlPaths p.settings.synthesis.topModule
    p.settings.synthesis.partNumber)

/-- The calls of a run that flashes this bitstream, in their order. -/
def script (p : Pipeline σ) (bitstream : Path) : List Call := [
  .build p.settings.hardwareDir p.settings.build.command p.settings.build.timeout,
  p.synthesisCall,
  .gateway (.flash bitstream p.settings.synthesis.deviceId),
  .openChannel,
  .gateway (.analyze "utilization")]

/-- A success, or the result of a build that does not succeed and is tolerated. -/
def Accepts (p : Pipeline σ) : Reply → Prop
  | .build (.ok result) => result.succeeded = true ∨ p.settings.build.onFailure = .continue
  | .gateway (.ok _) => True
  | .openChannel (.ok _) => True
  | _ => False

/-- Every call in the trace has returned and was accepted, and no sample has failed. -/
structure Settled (p : Pipeline σ) (trace : List Event) : Prop where
  calls : ∀ call, .called call ∈ trace → ∃ reply, .returned call reply ∈ trace ∧ p.Accepts reply
  samples : ∀ byte, .sampled byte ∈ trace → byte.isOk = true

/-- What may happen after what has happened. -/
inductive Permits (p : Pipeline σ) (past : List Event) : Event → Prop
  /-- Only the bitstream of this run's synthesis is flashed. -/
  | called {call : Call} (settled : p.Settled past)
      (flashed : ∀ bitstream device, call = .gateway (.flash bitstream device) →
        ∃ artifact, .returned p.synthesisCall (.gateway (.ok (.artifact artifact))) ∈ past ∧
          bitstream = artifact.bitstream) :
      Permits p past (.called call)
  | returned {call : Call} {reply : Reply} (asked : past.getLast? = some (.called call)) :
      Permits p past (.returned call reply)
  | sampled {byte : Except IoError (Option UInt8)} (settled : p.Settled past)
      (opened : (callsOf past).getLast? = some .openChannel) :
      Permits p past (.sampled byte)

/-- Everything in the trace may happen after what stands before it. -/
def Lawful (p : Pipeline σ) (trace : List Event) : Prop :=
  ∀ past e rest, trace = past ++ e :: rest → p.Permits past e

/-- A lawful trace with the first `n` calls of a run. -/
structure Orderly (p : Pipeline σ) (n : Nat) (trace : List Event) : Prop where
  lawful : p.Lawful trace
  calls : ∃ bitstream, callsOf trace = (p.script bitstream).take n

variable {p : Pipeline σ} {n : Nat} {past : List Event} {e : Event} {call : Call} {reply : Reply}
  {byte : Except IoError (Option UInt8)}

theorem Lawful.snoc (h : p.Lawful past) (next : p.Permits past e) : p.Lawful (past ++ [e]) := by
  intro before e' rest split
  rcases Log.eq_concat_cases split.symm with ⟨-, rfl, rfl⟩ | ⟨rest, -, inside⟩
  · exact next
  · exact h before e' rest inside.symm

theorem settled_nil : p.Settled [] where
  calls := by simp
  samples := by simp

/-- After a reply that is accepted, the call before it is settled too. -/
theorem Settled.exchange (h : p.Settled past) (accepted : p.Accepts reply) :
    p.Settled (past ++ [.called call, .returned call reply]) where
  calls := by
    intro c mem
    simp only [List.mem_append, List.mem_cons, List.not_mem_nil, or_false, Event.called.injEq,
      reduceCtorEq] at mem
    rcases mem with old | rfl
    · obtain ⟨r, returned, accepts⟩ := h.calls c old
      exact ⟨r, List.mem_append_left _ returned, accepts⟩
    · exact ⟨reply, by simp, accepted⟩
  samples := by
    intro b mem
    simp only [List.mem_append, List.mem_cons, List.not_mem_nil, or_false, reduceCtorEq] at mem
    exact h.samples b mem

theorem Settled.sample (h : p.Settled past) (ok : byte.isOk = true) :
    p.Settled (past ++ [.sampled byte]) where
  calls := by
    intro c mem
    simp only [List.mem_append, List.mem_singleton, reduceCtorEq, or_false] at mem
    obtain ⟨r, returned, accepts⟩ := h.calls c mem
    exact ⟨r, List.mem_append_left _ returned, accepts⟩
  samples := by
    intro b mem
    simp only [List.mem_append, List.mem_singleton, Event.sampled.injEq] at mem
    rcases mem with old | rfl
    · exact h.samples b old
    · exact ok

theorem orderly_nil : p.Orderly 0 [] where
  lawful := by
    intro past e rest split
    simp at split
  calls := ⟨⟨""⟩, rfl⟩

/-- The next call of the script is made. -/
theorem Orderly.ask (h : p.Orderly n past) (may : p.Permits past (.called call))
    (next : ∀ bitstream, ∃ bitstream',
      (p.script bitstream').take (n + 1) = (p.script bitstream).take n ++ [call]) :
    p.Orderly (n + 1) (past ++ [.called call]) where
  lawful := h.lawful.snoc may
  calls := by
    obtain ⟨bitstream, calls⟩ := h.calls
    obtain ⟨bitstream', more⟩ := next bitstream
    refine ⟨bitstream', ?_⟩
    rw [more, ← calls]
    simp [callsOf, Event.call?]

/-- The call that was made last returns. -/
theorem Orderly.answer (h : p.Orderly n (past ++ [.called call])) (reply : Reply) :
    p.Orderly n (past ++ [.called call, .returned call reply]) where
  lawful := by
    have may : p.Permits (past ++ [.called call]) (.returned call reply) :=
      .returned List.getLast?_concat
    have lawful := h.lawful.snoc may
    rwa [List.append_assoc] at lawful
  calls := by
    obtain ⟨bitstream, calls⟩ := h.calls
    refine ⟨bitstream, ?_⟩
    rw [← calls]
    simp [callsOf, Event.call?]

theorem Orderly.sample (h : p.Orderly n past) (may : p.Permits past (.sampled byte)) :
    p.Orderly n (past ++ [.sampled byte]) where
  lawful := h.lawful.snoc may
  calls := by
    obtain ⟨bitstream, calls⟩ := h.calls
    refine ⟨bitstream, ?_⟩
    rw [← calls]
    simp [callsOf, Event.call?]

end Pipeline

/-! ## What the traced collaborators write -/

variable {σ α β ε : Type}

/-- Work waits after it was asked for, and returns at its end. -/
theorem Work.traced_meets (call : Call) (reply : α → Reply) (t : Work σ α) (now : Duration)
    (w : Traced σ) :
    (t.traced call reply now w).Meets (fun v => v.trace = w.trace ++ [.called call])
      fun v r => v.trace = w.trace ++ [.called call, .returned call (reply r)] := by
  rw [Work.traced_apply]
  have unknown := Activity.Meets.unknown (t now w.world)
  refine .andThen (.embed (unknown.mono ?_ ?_)) now
  · intro world _
    rfl
  · intro world r _ u
    refine .done ?_
    simp [Traced.add]

/-- What a look leaves: all samples but one that fails are alike. -/
theorem Channel.drain_traced_keeps (ch : Channel σ) {sentinel : UInt8} {now : Duration}
    {good bad : List Event → Prop}
    (kept : ∀ trace byte, good trace → good (trace ++ [.sampled (.ok byte)]))
    (lost : ∀ trace e, good trace → bad (trace ++ [.sampled (.error e)]))
    {w v : Traced σ} (start : good w.trace) {look : Except IoError Bool}
    (drained : ch.traced.drain sentinel now w = some (v, look)) :
    if look.isOk then good v.trace else bad v.trace := by
  have sampled {w v : Traced σ} {r : Except IoError (Option UInt8)}
      (h : ch.traced.sample now w = (v, r)) : v.trace = w.trace ++ [.sampled r] := by
    cases h
    rfl
  induction Channel.drain_eq_some_iff.1 drained with
  | @failed w t e h =>
    have more := lost _ e start
    rwa [← sampled h] at more
  | nothing h =>
    have more := kept _ none start
    rwa [← sampled h] at more
  | seen h =>
    have more := kept _ (some sentinel) start
    rwa [← sampled h] at more
  | @passed w t v b look h other rest ih =>
    have more := kept _ (some b) start
    rw [← sampled h] at more
    exact ih more rest.drain_eq

/-- So does a whole wait. -/
theorem Monitor.watch_traced_keeps (m : Monitor) (ch : Channel σ) (sentinel : UInt8)
    (timeout started elapsed : Duration) (good bad : List Event → Prop)
    (kept : ∀ trace byte, good trace → good (trace ++ [.sampled (.ok byte)]))
    (lost : ∀ trace e, good trace → bad (trace ++ [.sampled (.error e)]))
    (w : Traced σ) (start : good w.trace) :
    (m.watch ch.traced sentinel timeout started elapsed w).Meets (fun v => good v.trace)
      fun v r => good v.trace ∨ (bad v.trace ∧ ∃ e, r = .error e) := by
  fun_induction Monitor.watch m ch.traced sentinel timeout started elapsed w with
  | case1 elapsed w endless => exact .spins start
  | case2 elapsed w v e drained =>
    exact .done (.inr ⟨ch.drain_traced_keeps kept lost start drained, _, rfl⟩)
  | case3 elapsed w v drained =>
    exact .done (.inl (ch.drain_traced_keeps kept lost start drained))
  | case4 elapsed w v drained lt pause ih =>
    have waits : good v.trace := ch.drain_traced_keeps kept lost start drained
    exact .wait waits (ih waits)
  | case5 elapsed w v drained spent =>
    exact .done (.inl (ch.drain_traced_keeps kept lost start drained))

/-! ## What the stages write -/

namespace Step

variable {now : Duration} {stage : Stage} {reason : ε → PipelineError}

/-- A call of which all is known that matters, and what follows it. -/
theorem meets_call_bind_of {t : Work σ (Except ε α)} {f : α → Step σ β} {a : Attempt σ}
    {during : Attempt σ → Prop} {after : Attempt σ → Except StageFailure β → Prop}
    (h : (t now a.world).Meets (fun w => during ⟨w, a.draft⟩) fun w r =>
      match r with
      | .ok v => ∀ u, ((f v).run u ⟨w, a.draft⟩).Meets during after
      | .error e => after ⟨w, a.draft⟩ (.error ⟨stage, reason e⟩)) :
    ((call stage reason t >>= f).run now a).Meets during after := by
  rw [run_bind, run_call]
  refine .andThen (.andThen (.embed (h.mono ?_ ?_)) now) now
  · intro w waits
    exact waits
  · intro w r ends u
    cases r with
    | ok v => exact .done ends
    | error e => exact .done fun _ => .done ends

end Step

namespace Pipeline

variable {p : Pipeline σ} {n : Nat}

/-- After the synthesis, the stages are handed what it has returned. -/
def Hands (p : Pipeline σ) : (n : Nat) → Handed n → List Event → Prop
  | 3, artifact, trace => .returned p.synthesisCall (.gateway (.ok (.artifact artifact))) ∈ trace
  | _, _, _ => True

/-- The trace when one stage has ended well and the next one is about to start. -/
structure Between (p : Pipeline σ) (n : Nat) (trace : List Event) : Prop where
  orderly : p.Orderly n trace
  settled : p.Settled trace

/-- A stage that starts with the next call of the script. -/
theorem meets_traced_bind {call : Call} {reply : Except ε α → Reply} {t : Work σ (Except ε α)}
    {f : α → Step (Traced σ) β} {stage : Stage} {reason : ε → PipelineError} {now : Duration}
    {a : Attempt (Traced σ)} (good : β → List Event → Prop) (between : p.Between n a.world.trace)
    (next : ∀ bitstream, ∃ bitstream',
      (p.script bitstream').take (n + 1) = (p.script bitstream).take n ++ [call])
    (flashed : ∀ bitstream device, call = .gateway (.flash bitstream device) →
      ∃ artifact, .returned p.synthesisCall (.gateway (.ok (.artifact artifact))) ∈ a.world.trace ∧
        bitstream = artifact.bitstream)
    (rest : ∀ v u (b : Attempt (Traced σ)),
      b.world.trace = a.world.trace ++ [.called call, .returned call (reply (.ok v))] →
      p.Orderly (n + 1) b.world.trace →
      ((f v).run u b).Meets (fun c => p.Orderly (n + 1) c.world.trace) fun c r =>
        p.Orderly (n + 1) c.world.trace ∧ ∀ v, r = .ok v → good v c.world.trace) :
    ((Step.call stage reason (t.traced call reply) >>= f).run now a).Meets
      (fun b => p.Orderly (n + 1) b.world.trace) fun b r =>
        p.Orderly (n + 1) b.world.trace ∧ ∀ v, r = .ok v → good v b.world.trace := by
  have asked := between.orderly.ask (.called between.settled flashed) next
  refine Step.meets_call_bind_of ((t.traced_meets call reply now a.world).mono ?_ ?_)
  · intro w pending
    rwa [← pending] at asked
  · intro w r returned
    have answered := asked.answer (reply r)
    rw [← returned] at answered
    cases r with
    | ok v =>
      intro u
      exact rest v u ⟨w, a.draft⟩ returned answered
    | error e => exact ⟨answered, nofun⟩

variable {now : Duration} {a : Attempt (Traced σ)}

theorem build_orderly (between : p.Between 0 a.world.trace) :
    (p.traced.build.run now a).Meets (fun b => p.Orderly 1 b.world.trace) fun b r =>
      p.Orderly 1 b.world.trace ∧ ∀ v, r = .ok v → p.Settled b.world.trace := by
  refine meets_traced_bind (fun _ => p.Settled) between (fun bitstream => ⟨bitstream, rfl⟩) nofun ?_
  intro result u b returned orderly
  have settled (accepted : p.Accepts (.build (.ok result))) : p.Settled b.world.trace := by
    rw [returned]
    exact between.settled.exchange accepted
  rw [Step.run_keep_bind]
  split
  next succeeded =>
    rw [Step.run_record]
    exact .done ⟨orderly, fun _ _ => settled (.inl succeeded)⟩
  next =>
    cases policy : p.traced.settings.build.onFailure with
    | abort => exact .done ⟨orderly, nofun⟩
    | «continue» =>
      rw [Step.run_record]
      exact .done ⟨orderly, fun _ _ => settled (.inr policy)⟩

theorem synthesize_orderly (between : p.Between 1 a.world.trace) :
    (p.traced.synthesize.run now a).Meets (fun b => p.Orderly 2 b.world.trace) fun b r =>
      p.Orderly 2 b.world.trace ∧ ∀ artifact, r = .ok artifact →
        p.Settled b.world.trace ∧ p.Hands 3 artifact b.world.trace := by
  refine meets_traced_bind (fun artifact trace => p.Settled trace ∧ p.Hands 3 artifact trace)
    between (fun bitstream => ⟨bitstream, rfl⟩) nofun ?_
  intro artifact u b returned orderly
  rw [Step.run_keep_bind, Step.run_record_bind]
  refine .done ⟨orderly, ?_⟩
  rintro _ ⟨⟩
  dsimp only
  rw [returned]
  refine ⟨between.settled.exchange trivial, ?_⟩
  exact List.mem_append_right _ (List.mem_cons_of_mem _ (List.mem_singleton.2 rfl))

theorem flash_orderly (between : p.Between 2 a.world.trace) {artifact : SynthesisArtifact}
    (handed : p.Hands 3 artifact a.world.trace) :
    ((p.traced.flash artifact).run now a).Meets (fun b => p.Orderly 3 b.world.trace) fun b r =>
      p.Orderly 3 b.world.trace ∧ ∀ v, r = .ok v → p.Settled b.world.trace := by
  refine meets_traced_bind (fun _ => p.Settled) between (fun _ => ⟨artifact.bitstream, rfl⟩) ?_ ?_
  · rintro _ _ ⟨⟩
    exact ⟨artifact, handed, rfl⟩
  · intro confirmation u b returned orderly
    rw [Step.run_keep_bind, Step.run_record]
    refine .done ⟨orderly, fun _ _ => ?_⟩
    dsimp only
    rw [returned]
    exact between.settled.exchange trivial

/-- The trace while the channel is sampled and no sample has failed. -/
structure Sampling (p : Pipeline σ) (trace : List Event) : Prop extends p.Between 4 trace where
  opened : (callsOf trace).getLast? = some .openChannel

theorem Sampling.sample {trace : List Event} (h : p.Sampling trace) (byte : Option UInt8) :
    p.Sampling (trace ++ [.sampled (.ok byte)]) where
  orderly := h.orderly.sample (.sampled h.settled h.opened)
  settled := h.settled.sample rfl
  opened := by
    rw [← h.opened]
    simp [callsOf, Event.call?]

theorem measure_orderly (between : p.Between 3 a.world.trace) :
    (p.traced.measure.run now a).Meets (fun b => p.Orderly 4 b.world.trace) fun b r =>
      p.Orderly 4 b.world.trace ∧ ∀ v, r = .ok v → p.Settled b.world.trace := by
  refine meets_traced_bind (fun _ => p.Settled) between (fun bitstream => ⟨bitstream, rfl⟩) nofun ?_
  intro _ u b returned orderly
  have sampling : p.Sampling b.world.trace := by
    refine ⟨⟨orderly, ?_⟩, ?_⟩
    · rw [returned]
      exact between.settled.exchange trivial
    · have calls : callsOf b.world.trace = callsOf a.world.trace ++ [.openChannel] := by
        rw [returned]
        simp [callsOf, Event.call?]
      rw [calls]
      exact List.getLast?_concat
  have watched := Monitor.watch_traced_keeps (.every p.settings.monitor.pollInterval)
    p.parts.channel p.settings.monitor.sentinel p.settings.monitor.timeout u 0
    p.Sampling (p.Orderly 4) (fun _ byte h => h.sample byte)
    (fun _ e h => h.orderly.sample (.sampled h.settled h.opened)) b.world sampling
  refine Step.meets_call_bind_of (watched.mono ?_ ?_)
  · intro w waits
    exact waits.orderly
  · intro w r ends
    cases r with
    | ok elapsed =>
      intro v
      obtain fine | ⟨-, e, failed⟩ := ends
      · rw [Step.run_keep_bind, Step.run_record_bind]
        exact .done ⟨fine.orderly, fun _ _ => fine.settled⟩
      · cases failed
    | error e =>
      obtain fine | ⟨failed, -⟩ := ends
      · exact ⟨fine.orderly, nofun⟩
      · exact ⟨failed, nofun⟩

theorem analyze_orderly (between : p.Between 4 a.world.trace) :
    (p.traced.analyze.run now a).Meets (fun b => p.Orderly 5 b.world.trace) fun b r =>
      p.Orderly 5 b.world.trace ∧ ∀ v, r = .ok v → p.Settled b.world.trace := by
  refine meets_traced_bind (fun _ => p.Settled) between (fun bitstream => ⟨bitstream, rfl⟩) nofun ?_
  intro report u b returned orderly
  rw [Step.run_keep_bind, Step.run_record_bind]
  refine .done ⟨orderly, fun _ _ => ?_⟩
  dsimp only
  rw [returned]
  exact between.settled.exchange trivial

/-- The score is no call. -/
theorem score_orderly (between : p.Between 5 a.world.trace) (elapsed : Duration)
    (utilization : Utilization.Report) :
    ((p.traced.score elapsed utilization).run now a).Meets (fun b => p.Orderly 6 b.world.trace)
      fun b r => p.Orderly 6 b.world.trace ∧ ∀ v, r = .ok v → p.Settled b.world.trace := by
  have orderly : p.Orderly 6 a.world.trace := ⟨between.orderly.lawful, between.orderly.calls⟩
  unfold score
  rw [Step.run_bind]
  cases Score.of elapsed.seconds utilization.raw p.traced.settings.scoring.resourceKey with
  | ok score => exact .done ⟨orderly, fun _ _ => between.settled⟩
  | error e => exact .done ⟨orderly, nofun⟩

/-- A stage after the injection makes the next call of the script. -/
theorem perform_orderly (program : Program) {s : Stage} (later : s ≠ .inject)
    (handed : Handed s.index) (between : p.Between (s.index - 1) a.world.trace)
    (hands : p.Hands s.index handed a.world.trace) :
    ((p.traced.perform program s.index handed).run now a).Meets
      (fun b => p.Orderly s.index b.world.trace) fun b r =>
        p.Orderly s.index b.world.trace ∧ ∀ v, r = .ok v →
          p.Settled b.world.trace ∧ p.Hands (s.index + 1) v b.world.trace := by
  have handsNothing {m : Nat} {x : Step (Traced σ) (Handed (m + 1))}
      (nothing : ∀ v trace, p.Hands (m + 1) v trace)
      (h : (x.run now a).Meets (fun b => p.Orderly m b.world.trace) fun b r =>
        p.Orderly m b.world.trace ∧ ∀ v, r = .ok v → p.Settled b.world.trace) :
      (x.run now a).Meets (fun b => p.Orderly m b.world.trace) fun b r =>
        p.Orderly m b.world.trace ∧ ∀ v, r = .ok v →
          p.Settled b.world.trace ∧ p.Hands (m + 1) v b.world.trace := by
    refine h.mono (fun _ h => h) ?_
    rintro b r ⟨orderly, settled⟩
    exact ⟨orderly, fun v ok => ⟨settled v ok, nothing v _⟩⟩
  cases s with
  | inject => exact absurd rfl later
  | build => exact handsNothing (fun _ _ => trivial) (build_orderly between)
  | synthesize => exact synthesize_orderly between
  | flash => exact handsNothing (fun _ _ => trivial) (flash_orderly between hands)
  | measure => exact handsNothing (fun _ _ => trivial) (measure_orderly between)
  | analyze =>
    refine handsNothing (fun _ _ => trivial) ?_
    show ((p.traced.analyze >>= fun u => pure (handed, u)).run now a).Meets _ _
    rw [Step.run_bind]
    refine .andThen ((analyze_orderly between).mono (fun _ h => h) ?_) now
    rintro b r ⟨orderly, settled⟩ t
    cases r with
    | ok u => exact .done ⟨orderly, fun _ _ => settled u rfl⟩
    | error f => exact .done ⟨orderly, nofun⟩
  | score => exact handsNothing (fun _ _ => trivial) (score_orderly between handed.1 handed.2)

theorem patchSource_of_error {program : Program} {world : σ} {e : PatchError}
    (failed : (p.patchSource program world).2 = .error e) :
    (p.patchSource program world).1 = world := by
  unfold patchSource at *
  dsimp only at *
  split
  next applied =>
    rw [applied] at failed
    cases failed
  next => rfl

/-- What is known of a run that is in some stage, or has ended in it. -/
structure Underway (p : Pipeline σ) (program : Program) (start : σ) (s : Stage) (w : Traced σ) :
    Prop where
  orderly : p.Orderly s.index w.trace
  untouched : s = .inject → w = ⟨start, []⟩
  injected : s ≠ .inject → ∃ patched outcome, p.patchSource program start = (patched, .ok outcome)

/-- An injection makes no call. One that fails leaves everything as it was. -/
theorem inject_orderly (program : Program) (start : σ) (d : Draft) :
    ((p.traced.inject program).run now ⟨⟨start, []⟩, d⟩).Meets (fun _ => False) fun b r =>
      match r with
      | .ok _ => b.world.trace = [] ∧
          ∃ patched outcome, p.patchSource program start = (patched, .ok outcome)
      | .error _ => b.world = ⟨start, []⟩ := by
  cases patched : p.patchSource program start with
  | mk world r =>
    have act : Work.act (p.traced.patchSource program) now ⟨start, []⟩ = .done ⟨world, []⟩ r := by
      unfold Work.act
      rw [patchSource_traced, patched]
    unfold inject
    rw [Step.run_bind, Step.run_call, act]
    cases r with
    | ok outcome => exact .done ⟨rfl, world, outcome, rfl⟩
    | error e =>
      have unchanged : (p.patchSource program start).1 = start := by
        apply patchSource_of_error (e := e)
        rw [patched]
      rw [patched] at unchanged
      subst unchanged
      exact .done rfl

/-- What is known once the first stages have ended: either they hand something on, after calls that
have all returned well, or one of them has failed. -/
inductive Ended (p : Pipeline σ) (program : Program) (start : σ) (n : Nat)
    (b : Attempt (Traced σ)) : Except StageFailure (Handed n) → Prop where
  | well {handed : Handed n} (reached : b.draft.Reached n)
      (injected : ∃ patched outcome, p.patchSource program start = (patched, .ok outcome))
      (between : p.Between (n - 1) b.world.trace) (hands : p.Hands n handed b.world.trace) :
      Ended p program start n b (.ok handed)
  | badly {f : StageFailure} (underway : p.Underway program start f.stage b.world) :
      Ended p program start n b (.error f)

/-- What is known while the first stages wait. -/
def Waits (p : Pipeline σ) (program : Program) (start : σ) (b : Attempt (Traced σ)) : Prop :=
  ∃ s : Stage, b.draft.Reached s.index ∧ p.Underway program start s b.world

/-- The injection is the first stage. It does not wait. -/
theorem inject_ended (p : Pipeline σ) (program : Program) (start : σ) (now : Duration) {d : Draft}
    (reached : d.Reached 0) :
    ((p.traced.inject program).run now ⟨⟨start, []⟩, d⟩).Meets (p.Waits program start)
      (p.Ended program start 1) := by
  have both := (p.traced.inject_meets program now ⟨⟨start, []⟩, d⟩).and
    (inject_orderly program start d)
  refine both.mono (fun b h => h.2.elim) ?_
  rintro b r ⟨ended, injected⟩
  cases r with
  | ok _ =>
    obtain ⟨empty, injected⟩ := injected
    refine .well (ended.reached reached) injected ?_ trivial
    rw [empty]
    exact ⟨orderly_nil, settled_nil⟩
  | error f =>
    obtain ⟨stage, -⟩ := ended
    have unchanged : b.world = ⟨start, []⟩ := injected
    refine .badly ?_
    rw [stage, unchanged]
    exact ⟨orderly_nil, fun _ => rfl, fun other => absurd rfl other⟩

/-- One more stage makes its call after those of the stages before it. -/
theorem perform_ended (p : Pipeline σ) (program : Program) (start : σ) {s : Stage}
    (later : s ≠ .inject) {handed : Handed s.index} (now : Duration) {a : Attempt (Traced σ)}
    (before : p.Ended program start s.index a (.ok handed)) :
    ((p.traced.perform program s.index handed).run now a).Meets (p.Waits program start)
      (p.Ended program start (s.index + 1)) := by
  obtain ⟨reached, injected, between, hands⟩ := before
  have both := (p.traced.perform_meets program now a s handed).and
    (perform_orderly program later handed between hands)
  refine both.mono ?_ ?_
  · rintro c ⟨draft, orderly⟩
    refine ⟨s, ?_, orderly, fun same => absurd same later, fun _ => injected⟩
    rw [draft]
    exact reached
  · rintro c r ⟨ended, orderly, settled⟩
    cases r with
    | ok v =>
      obtain ⟨settled, hands⟩ := settled v rfl
      exact .well (ended.reached reached) injected ⟨orderly, settled⟩ hands
    | error f =>
      obtain ⟨stage, -⟩ := ended
      refine .badly ?_
      rw [stage]
      exact ⟨orderly, fun same => absurd same later, fun _ => injected⟩

/-- The first stages make their calls in order, after an injection that has succeeded. -/
theorem first_orderly (p : Pipeline σ) (program : Program) (start : σ) (pos : 0 < n) (hn : n ≤ 7)
    (now : Duration) {d : Draft} (reached : d.Reached 0) :
    ((p.traced.first program n).run now ⟨⟨start, []⟩, d⟩).Meets (p.Waits program start)
      (p.Ended program start n) := by
  induction n with
  | zero => exact absurd pos (Nat.lt_irrefl 0)
  | succ n ih =>
    obtain ⟨s, rfl⟩ := Stage.exists_index_eq hn
    by_cases injects : s = .inject
    · subst injects
      exact p.inject_ended program start now reached
    · have some_before : 0 < s.index := by
        cases s with
        | inject => exact absurd rfl injects
        | _ => decide
      rw [first, Step.run_bind]
      refine .andThen ((ih some_before (Nat.le_of_lt hn)).mono (fun _ h => h) ?_) now
      intro b r h t
      cases r with
      | error f =>
        cases h with
        | badly underway => exact .done (.badly underway)
      | ok handed => exact p.perform_ended program start injects t h

/-- The stage in which a run has ended. -/
def endStage : Except RunFailure CompletedRun → Stage
  | .error f => f.stage
  | .ok _ => .score

theorem run_orderly (p : Pipeline σ) (id : RunId) (program : Program) (now : Duration)
    (world : σ) :
    (p.traced.run id program now ⟨world, []⟩).Meets
      (fun w => ∃ s, p.Underway program world s w) fun w r =>
        p.Underway program world (endStage r) w := by
  rw [run_apply]
  have start := Draft.reached_begin id program (p.epoch.later now)
  have kept := (p.first_orderly program world (by decide) (Nat.le_refl 7) now start).within
    p.settings.runLimit
  refine .embed (.andThen (kept.mono ?_ ?_) now)
  · rintro b ⟨s, -, underway⟩
    exact ⟨s, underway⟩
  intro b r h t
  refine .done ?_
  cases r with
  | none =>
    obtain ⟨s, reached, underway⟩ := h
    rw [conclude, endStage, Draft.fail, reached.after_lastStage?]
    exact underway
  | some result =>
    cases h with
    | badly underway => exact underway
    | @well score reached injected between _ =>
      obtain ⟨run, complete⟩ := reached.complete score (p.traced.epoch.later t)
      rw [conclude, complete]
      refine ⟨between.orderly, ?_, fun _ => injected⟩
      rintro ⟨⟩

/-- **What a run asks of its collaborators, and when.** Every run leaves a trace of its calls, in
which each call stands after the injection has succeeded and all calls before it have returned and
were accepted. They are the calls of the script up to the stage in which the run has ended, by a
failure or by the limit: none is made twice, and none after that. What is flashed is the bitstream
that the run's own synthesis has returned. A run that fails at the injection has made no call, and
leaves the world as it was. Where the collaborators yield, the run ends; otherwise it may come to go
on forever in a stage, and its trace up to there is like that of a run that ends in it. -/
theorem run_follows_script (p : Pipeline σ) (id : RunId) (program : Program) (now : Duration)
    (world : σ) :
    (∃ r later w trace,
      (p.run id program).Ends now world r later w ∧
      (p.traced.run id program).Ends now ⟨world, []⟩ r later ⟨w, trace⟩ ∧
      p.Underway program world (endStage r) ⟨w, trace⟩) ∨
    (¬ p.parts.Yields ∧ ∃ s w trace,
      (p.run id program now world).spin? = some w ∧
      (p.traced.run id program now ⟨world, []⟩).spin? = some ⟨w, trace⟩ ∧
      p.Underway program world s ⟨w, trace⟩) := by
  have untraced := p.run_traced program id now ⟨world, []⟩
  have orderly := p.run_orderly id program now world
  obtain ⟨r, later, ⟨w, trace⟩, ends⟩ | ⟨⟨w, trace⟩, spins⟩ :=
    p.traced.run_ends_or_spins id program now ⟨world, []⟩
  · refine .inl ⟨r, later, w, trace, ?_, ends, orderly.finish ends⟩
    unfold Work.Ends at *
    rw [← untraced, Activity.finish?_embed, ends]
    rfl
  · have plain : (p.run id program now world).spin? = some w := by
      rw [← untraced, Activity.spin?_embed, spins]
      rfl
    obtain ⟨s, underway⟩ := orderly.of_spin? spins
    refine .inr ⟨fun yields => ?_, s, w, trace, plain, spins, underway⟩
    cases plain.symm.trans (run_yields yields id program now world)

end Pipeline

end CoreTrial
