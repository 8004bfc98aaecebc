import CoreTrial.Proofs.Completion.Alike
import CoreTrial.Proofs.Completion.Grid
import CoreTrial.Proofs.Completion.Removal

/-!
# What a wait reads from its channel

A channel that logs keeps the samples that are taken from it, each with its time. `Sampling` says
which samples a wait takes: a round of them at each of its offsets, and nothing else. What the wait
answers, and when, is then read off the first of them that settles it (`await_samples`).
-/

set_option autoImplicit false

namespace CoreTrial

/-- A sample that was taken from a channel. -/
structure Sample where
  time : Duration
  answer : Except IoError (Option UInt8)

namespace Sample

variable {sentinel : UInt8} {s : Sample} {round : List Sample}

/-- The sample settles the wait: it is the sentinel or an error. -/
def settles (sentinel : UInt8) (s : Sample) : Bool :=
  match s.answer with
  | .ok none => false
  | .ok (some b) => b == sentinel
  | .error _ => true

/-- The sample is a byte that is passed over. -/
def passes (sentinel : UInt8) (s : Sample) : Bool :=
  match s.answer with
  | .ok none => false
  | .ok (some b) => b != sentinel
  | .error _ => false

/-- The sample that ends a look, if it settles the wait. -/
def ofLook (sentinel : UInt8) (now : Duration) : Except IoError Bool → Option Sample
  | .ok false => none
  | .ok true => some ⟨now, .ok (some sentinel)⟩
  | .error e => some ⟨now, .error e⟩

/-- Samples that follow each other in one round: bytes that are passed over, and then one sample
that brings nothing, the sentinel or an error. -/
inductive Round (sentinel : UInt8) : List Sample → Prop
  | last {s : Sample} (h : s.passes sentinel = false) : Round sentinel [s]
  | cons {s : Sample} {round : List Sample} (h : s.passes sentinel = true)
      (rest : Round sentinel round) : Round sentinel (s :: round)

theorem settles_of_passes (h : s.passes sentinel = true) : s.settles sentinel = false := by
  unfold passes at h
  unfold settles
  split at h
  · cases h
  · exact beq_eq_false_iff_ne.2 (bne_iff_ne.1 h)
  · cases h

end Sample

variable {σ : Type}

namespace Channel

/-- The channel, with the samples that were taken from it. -/
def logged (ch : Channel σ) : Channel (σ × List Sample) where
  sample now w :=
    (((ch.sample now w.1).1, w.2 ++ [⟨now, (ch.sample now w.1).2⟩]), (ch.sample now w.1).2)

theorem sample_logged {ch : Channel σ} {now : Duration} {w v : σ}
    {r : Except IoError (Option UInt8)} (sampled : ch.sample now w = (v, r)) (log : List Sample) :
    ch.logged.sample now (w, log) = ((v, log ++ [⟨now, r⟩]), r) := by
  simp [logged, sampled]

/-- The log is written beside the channel. -/
theorem logged_alike (ch : Channel σ) (started : Duration) :
    Alike (fun w v => w.1 = v) started started ch.logged ch := by
  rintro elapsed ⟨w, log⟩ v rfl
  exact ⟨rfl, rfl⟩

/-- One look takes a round of samples, and finds what the first of them that settles the wait has
brought. -/
theorem Drains.logged {ch : Channel σ} {sentinel : UInt8} {now : Duration} {w v : σ}
    {look : Except IoError Bool} (drains : ch.Drains sentinel now w v look) (log : List Sample) :
    ∃ round, ch.logged.Drains sentinel now (w, log) (v, log ++ round) look ∧
      Sample.Round sentinel round ∧ (∀ s ∈ round, s.time = now) ∧
      round.find? (Sample.settles sentinel) = Sample.ofLook sentinel now look := by
  induction drains generalizing log with
  | @failed w v e sampled =>
    exact ⟨[⟨now, .error e⟩], .failed (sample_logged sampled log), .last rfl, by simp, rfl⟩
  | nothing sampled =>
    exact ⟨[⟨now, .ok none⟩], .nothing (sample_logged sampled log), .last rfl, by simp, rfl⟩
  | seen sampled =>
    refine ⟨[⟨now, .ok (some sentinel)⟩], .seen (sample_logged sampled log), .last ?_, by simp, ?_⟩
    · exact bne_self_eq_false sentinel
    · exact List.find?_cons_of_pos (beq_self_eq_true sentinel)
  | @passed w u v b look sampled other _ ih =>
    obtain ⟨round, drains, whole, times, found⟩ := ih (log ++ [⟨now, .ok (some b)⟩])
    have passes : Sample.passes sentinel ⟨now, .ok (some b)⟩ = true := bne_iff_ne.2 other
    rw [List.append_assoc] at drains
    refine ⟨⟨now, .ok (some b)⟩ :: round, .passed (sample_logged sampled log) other drains,
      .cons passes whole, List.forall_mem_cons.2 ⟨rfl, times⟩, ?_⟩
    rw [List.find?_cons, Sample.settles_of_passes passes]
    exact found

end Channel

namespace Monitor

open Sample

variable {m : Monitor} {sentinel : UInt8} {timeout now start elapsed : Duration}
  {round log : List Sample}

/-- The samples that a wait takes, from one of its offsets to another. -/
structure Sampling (m : Monitor) (sentinel : UInt8) (timeout now start elapsed : Duration)
    (log : List Sample) : Prop where
  /-- A sample is taken at no other time. -/
  offsets : ∀ s ∈ log, ∃ g, m.OnGrid timeout g ∧ start ≤ g ∧ g ≤ elapsed ∧ s.time = now + g
  /-- At each offset, the samples are one round. -/
  rounds : ∀ g, m.OnGrid timeout g → start ≤ g → g ≤ elapsed →
    Round sentinel (log.filter fun s => s.time = now + g)
  /-- The samples stand in the order of their times. -/
  ordered : log.Pairwise fun s t => s.time ≤ t.time

/-- The samples of one look. -/
theorem Sampling.single (grid : m.OnGrid timeout start) (whole : Round sentinel round)
    (times : ∀ s ∈ round, s.time = now + start) :
    m.Sampling sentinel timeout now start start round where
  offsets s hs := ⟨start, grid, Nat.le_refl _, Nat.le_refl _, times s hs⟩
  rounds g _ above below := by
    obtain rfl : g = start := Nat.le_antisymm below above
    rwa [List.filter_eq_self.2 fun s hs => decide_eq_true (times s hs)]
  ordered := List.pairwise_of_forall_mem_list fun s hs t ht =>
    Nat.le_of_eq ((times s hs).trans (times t ht).symm)

/-- The samples of one look, and those of the looks that follow. -/
theorem Sampling.cons (grid : m.OnGrid timeout start) (lt : start < timeout)
    (whole : Round sentinel round) (times : ∀ s ∈ round, s.time = now + start)
    (le : m.next timeout start ≤ elapsed)
    (rest : m.Sampling sentinel timeout now (m.next timeout start) elapsed log) :
    m.Sampling sentinel timeout now start elapsed (round ++ log) where
  offsets s hs := by
    have later := m.lt_next lt
    rcases List.mem_append.1 hs with hs | hs
    · exact ⟨start, grid, Nat.le_refl _, by lia, times s hs⟩
    · obtain ⟨g, hg, above, below, time⟩ := rest.offsets s hs
      exact ⟨g, hg, by lia, below, time⟩
  rounds g hg above below := by
    have later := m.lt_next lt
    rw [List.filter_append]
    rcases Nat.eq_or_lt_of_le above with rfl | above
    · have here : round.filter (fun s => s.time = now + start) = round :=
        List.filter_eq_self.2 fun s hs => decide_eq_true (times s hs)
      have none_later : log.filter (fun s => s.time = now + start) = [] := by
        refine List.filter_eq_nil_iff.2 fun s hs => ?_
        obtain ⟨g, -, above, -, time⟩ := rest.offsets s hs
        simp only [decide_eq_true_eq]
        lia
      rwa [here, none_later, List.append_nil]
    · have none_here : round.filter (fun s => s.time = now + g) = [] := by
        refine List.filter_eq_nil_iff.2 fun s hs => ?_
        have time := times s hs
        simp only [decide_eq_true_eq]
        lia
      rw [none_here, List.nil_append]
      exact rest.rounds g hg (grid.next_le hg above) below
  ordered := by
    have later := m.lt_next lt
    refine List.pairwise_append.2 ⟨?_, rest.ordered, fun s hs t ht => ?_⟩
    · exact (Sampling.single grid whole times).ordered
    · have time := times s hs
      obtain ⟨g, -, above, -, time'⟩ := rest.offsets t ht
      lia

/-- Where a look sees nothing in time, the wait spins if it does from the next offset on. -/
theorem spin?_watch_of_lt (m : Monitor) {ch : Channel σ} {sentinel : UInt8}
    {timeout started elapsed : Duration} {w v : σ}
    (silent : ch.drain sentinel (started + elapsed) w = some (v, .ok false))
    (lt : elapsed < timeout) :
    (m.watch ch sentinel timeout started elapsed w).spin? =
      (m.watch ch sentinel timeout started (m.next timeout elapsed) v).spin? := by
  rw [watch, silent]
  dsimp only
  rw [dif_pos lt]
  rfl

/-- What a wait answers at the end, given the first sample that settles it. -/
def Settled (timeout now elapsed : Duration) (answer : Except MonitorError Duration) :
    Option Sample → Prop
  | none => answer = .error (.completionTimeout timeout timeout) ∧ elapsed = timeout
  | some ⟨time, .ok _⟩ => answer = .ok elapsed ∧ time = now + elapsed
  | some ⟨time, .error e⟩ => answer = .error (.channel e) ∧ time = now + elapsed

/-- From one of its offsets on, a wait takes the samples of the offsets that follow, until it is
settled. -/
theorem watch_samples (m : Monitor) {ch : Channel σ} {sentinel : UInt8} {timeout now : Duration}
    {start : Duration} (grid : m.OnGrid timeout start) {w : σ}
    (yields : (m.watch ch sentinel timeout now start w).spin? = none) (log : List Sample) :
    ∃ v new answer elapsed,
      (m.watch ch.logged sentinel timeout now start (w, log)).finish? (now + start) =
        some ((v, log ++ new), answer, now + elapsed) ∧
      start ≤ elapsed ∧ elapsed ≤ timeout ∧ m.Sampling sentinel timeout now start elapsed new ∧
      Settled timeout now elapsed answer (new.find? (settles sentinel)) := by
  -- The time that is left falls from look to look.
  induction h : timeout - start using Nat.strongRecOn generalizing start w log with
  | ind time ih =>
    subst h
    have in_time := grid.le
    obtain ⟨⟨v, look⟩, drained⟩ := Option.ne_none_iff_exists'.1 fun endless => by
      rw [m.watch_of_drain_none endless] at yields
      cases yields
    obtain ⟨round, drains, whole, times, found⟩ :=
      (Channel.drain_eq_some_iff.1 drained).logged log
    have single := Sampling.single grid whole times
    rw [finish?_watch, drains.drain_eq]
    rcases look with e | _ | _
    · refine ⟨v, round, _, start, rfl, Nat.le_refl _, in_time, single, ?_⟩
      rw [found]
      exact ⟨rfl, rfl⟩
    · dsimp only
      by_cases lt : start < timeout
      · have later := m.lt_next lt
        rw [m.spin?_watch_of_lt drained lt] at yields
        obtain ⟨v', new, answer, elapsed, ends, le, in_time', sampling, settled⟩ :=
          ih _ (by lia) (grid.next lt) yields (log ++ round) rfl
        refine ⟨v', round ++ new, answer, elapsed, ?_, by lia, in_time',
          sampling.cons grid lt whole times le, ?_⟩
        · rw [if_pos lt, ends, List.append_assoc]
        · rw [List.find?_append, found]
          exact settled
      · have spent : start = timeout := Nat.le_antisymm in_time (Nat.not_lt.1 lt)
        refine ⟨v, round, .error (.completionTimeout timeout start), start, if_neg lt,
          Nat.le_refl _, in_time, single, ?_⟩
        rw [found]
        exact ⟨by rw [spent], spent⟩
    · refine ⟨v, round, _, start, rfl, Nat.le_refl _, in_time, single, ?_⟩
      rw [found]
      exact ⟨rfl, rfl⟩

/-- **A wait reads its channel at its offsets only, and its answer is the first sample that settles
it.** On a channel that runs dry at all times it always ends, by the timeout. It takes a round of
samples at each multiple of its interval before its end, and at its end; the interval is a
millisecond where it is set to less. The first sample that is the sentinel or an error ends the wait
when it is taken. Where there is none, the wait is given up exactly at the timeout, after the round
of samples there. -/
theorem await_samples {ch : Channel σ} (finite : ch.Finite) (interval : Duration)
    (sentinel : UInt8) (timeout now : Duration) (w : σ) :
    ∃ v log answer elapsed,
      ((every interval).await ch.logged sentinel timeout now (w, [])).finish? now =
        some ((v, log), answer, now + elapsed) ∧
      ((every interval).await ch sentinel timeout now w).finish? now =
        some (v, answer, now + elapsed) ∧
      elapsed ≤ timeout ∧ (every interval).Sampling sentinel timeout now 0 elapsed log ∧
      Settled timeout now elapsed answer (log.find? (settles sentinel)) := by
  obtain ⟨v, log, answer, elapsed, ends, -, in_time, sampling, settled⟩ :=
    (every interval).watch_samples onGrid_zero
      ((every interval).spin?_watch finite sentinel timeout now 0 w) []
  have alike := (every interval).watch_alike (ch.logged_alike now) sentinel timeout 0 (w := (w, []))
    w rfl
  obtain ⟨_, ends', rfl⟩ := alike.finish ends now
  exact ⟨v, log, answer, elapsed, ends, ends', in_time, sampling, settled⟩

/-- A byte that comes after a millisecond ends the wait then, by the first sample that settles it:
those before it brought nothing. -/
theorem await_samples_soon : EventQueue.channel.Finite ∧ ∃ log,
    ((every 0).await EventQueue.channel.logged 0x2A (Duration.ofMillis 2) 0
      (EventQueue.soon, [])).finish? 0 =
        some ((EventQueue.silent 0, log), .ok (Duration.ofMillis 1), Duration.ofMillis 1) ∧
    (every 0).Sampling 0x2A (Duration.ofMillis 2) 0 0 (Duration.ofMillis 1) log ∧
    Settled (Duration.ofMillis 2) 0 (Duration.ofMillis 1) (.ok (Duration.ofMillis 1))
      (log.find? (settles 0x2A)) := by
  obtain ⟨v, log, answer, elapsed, logged, ends, -, sampling, settled⟩ :=
    await_samples EventQueue.channel_finite 0 0x2A (Duration.ofMillis 2) 0 EventQueue.soon
  obtain ⟨rfl, answered⟩ :=
    Prod.mk.inj (Option.some.inj (EventQueue.patient_ends.symm.trans ends))
  obtain ⟨rfl, time⟩ := Prod.mk.inj answered
  rw [Nat.zero_add] at time logged
  subst time
  exact ⟨EventQueue.channel_finite, log, logged, sampling, settled⟩

end Monitor

end CoreTrial
