import CoreTrial.Completion.Queue
import CoreTrial.Proofs.Activity.Ends
import CoreTrial.Proofs.Activity.Pauses
import CoreTrial.Proofs.Completion.Drain
import CoreTrial.Proofs.Completion.Grid

/-!
# What waits take from a queue

Waits follow one another on one queue. Each takes events from the front, none before it is due:
`Takes` are the ways in which it stops, and `Served` deals out the queue to the waits, so that the
next one goes on exactly where the last one stopped. A look of a wait may stop in three places;
what earlier looks of the same wait have taken goes before that (`Takes.prepend`).
-/

set_option autoImplicit false

namespace CoreTrial

/-- A wait for a sentinel, and how long nobody waits before it. -/
structure Wait where
  pause : Duration
  interval : Duration
  sentinel : UInt8
  timeout : Duration

/-- What a wait answered, and the queue that it left. -/
structure Waited where
  answer : Except MonitorError Duration
  left : EventQueue

namespace EventQueue

/-- Waits on a queue, one after the other. -/
def waits : List Wait → Work EventQueue (List Waited)
  | [] => pure []
  | w :: rest => do
    Work.pause w.pause
    let answer ← (Monitor.every w.interval).await channel w.sentinel w.timeout
    let left ← Work.look
    return ⟨answer, left⟩ :: (← waits rest)

/-- The event is neither the sentinel nor a failure. -/
def Passes (sentinel : UInt8) (e : ChannelEvent) : Prop :=
  ∃ byte, e.outcome = .ok byte ∧ byte ≠ some sentinel

/-- The events that are taken until the sentinel is seen, until nothing more is there, or until one
fails. -/
inductive Takes (sentinel : UInt8) : List ChannelEvent → Except IoError Bool → Prop
  | seen {passed : List ChannelEvent} (due : Duration) (h : ∀ e ∈ passed, Passes sentinel e) :
      Takes sentinel (passed ++ [⟨due, .ok (some sentinel)⟩]) (.ok true)
  | unseen {passed : List ChannelEvent} (h : ∀ e ∈ passed, Passes sentinel e) :
      Takes sentinel passed (.ok false)
  | failed {passed : List ChannelEvent} (due : Duration) (cause : IoError)
      (h : ∀ e ∈ passed, Passes sentinel e) :
      Takes sentinel (passed ++ [⟨due, .error cause⟩]) (.error cause)

/-- What the last look of a wait has brought. -/
def lastLook : Except MonitorError Duration → Except IoError Bool
  | .ok _ => .ok true
  | .error (.completionTimeout _ _) => .ok false
  | .error (.channel cause) => .error cause

/-- `r` is what is left of `q` when some events were taken, each of which was due by some time. -/
structure Leaves (q : EventQueue) (taken : List ChannelEvent) (time : Duration) (r : EventQueue) :
    Prop where
  opened : r.opened = q.opened
  events : q.events = taken ++ r.events
  due : ∀ e ∈ taken, q.opened + e.due ≤ time

/-- Each wait takes the next events of the queue and leaves the others to those after it. -/
inductive Served : EventQueue → List Wait → List Waited → EventQueue → Prop
  | nil (q : EventQueue) : Served q [] [] q
  | cons {q left last : EventQueue} {w : Wait} {rest : List Wait}
      {answer : Except MonitorError Duration} {waited : List Waited} {taken : List ChannelEvent}
      (opened : left.opened = q.opened) (events : q.events = taken ++ left.events)
      (takes : Takes w.sentinel taken (lastLook answer)) (others : Served left rest waited last) :
      Served q (w :: rest) (⟨answer, left⟩ :: waited) last

variable {sentinel : UInt8} {q r s : EventQueue} {taken taken' : List ChannelEvent}
  {time later : Duration}

theorem Takes.prepend {passed : List ChannelEvent} {look : Except IoError Bool}
    (h : ∀ e ∈ passed, Passes sentinel e) (takes : Takes sentinel taken look) :
    Takes sentinel (passed ++ taken) look := by
  have all {more : List ChannelEvent} (h' : ∀ e ∈ more, Passes sentinel e) :
      ∀ e ∈ passed ++ more, Passes sentinel e := by
    intro e mem
    rcases List.mem_append.1 mem with mem | mem
    · exact h e mem
    · exact h' e mem
  cases takes with
  | seen due h' =>
    rw [← List.append_assoc]
    exact .seen due (all h')
  | unseen h' => exact .unseen (all h')
  | failed due cause h' =>
    rw [← List.append_assoc]
    exact .failed due cause (all h')

theorem Takes.passes (h : Takes sentinel taken (.ok false)) : ∀ e ∈ taken, Passes sentinel e := by
  cases h
  assumption

theorem Leaves.refl (q : EventQueue) (time : Duration) : q.Leaves [] time q where
  opened := rfl
  events := rfl
  due := by simp

theorem Leaves.trans (h : q.Leaves taken time r) (h' : r.Leaves taken' later s)
    (le : time ≤ later) : q.Leaves (taken ++ taken') later s where
  opened := h'.opened.trans h.opened
  events := by rw [h.events, h'.events, List.append_assoc]
  due := by
    intro e mem
    rcases List.mem_append.1 mem with mem | mem
    · exact Nat.le_trans (h.due e mem) le
    · rw [← h.opened]
      exact h'.due e mem

/-- Nothing is taken, or the first event, which is due. -/
theorem sample_takes {outcome : Except IoError (Option UInt8)}
    (h : channel.sample time q = (r, outcome)) :
    (q = r ∧ outcome = .ok none) ∨ ∃ due, q.Leaves [⟨due, outcome⟩] time r := by
  obtain ⟨opened, events⟩ := q
  cases events with
  | nil =>
    cases h
    exact .inl ⟨rfl, rfl⟩
  | cons e rest =>
    by_cases due : opened + e.due ≤ time
    · have sampled : channel.sample time ⟨opened, e :: rest⟩ = (⟨opened, rest⟩, e.outcome) :=
        if_pos due
      cases h.symm.trans sampled
      exact .inr ⟨e.due, rfl, rfl, by simpa using due⟩
    · have sampled : channel.sample time ⟨opened, e :: rest⟩ = (⟨opened, e :: rest⟩, .ok none) :=
        if_neg due
      cases h.symm.trans sampled
      exact .inl ⟨rfl, rfl⟩

/-- A queue offers only the bytes that it has. -/
theorem channel_finite : channel.Finite := by
  refine .of_falls (fun _ q => q.events.length) ?_
  intro now q r b sampled
  obtain ⟨-, nothing⟩ | ⟨due, leaves⟩ := sample_takes sampled
  · cases nothing
  · rw [leaves.events, List.length_append]
    exact Nat.lt_add_of_pos_left Nat.one_pos

/-- A look takes events that are due, up to where it stops. -/
theorem drain_takes {look : Except IoError Bool}
    (h : channel.drain sentinel time q = some (r, look)) :
    ∃ taken, q.Leaves taken time r ∧ Takes sentinel taken look := by
  induction Channel.drain_eq_some_iff.1 h with
  | @failed q r cause sampled =>
    obtain ⟨-, nothing⟩ | ⟨due, leaves⟩ := sample_takes sampled
    · cases nothing
    · have alone : Takes sentinel ([] ++ [⟨due, .error cause⟩]) (.error cause) :=
        .failed due cause (by simp)
      exact ⟨_, leaves, alone⟩
  | @nothing q r sampled =>
    obtain ⟨rfl, -⟩ | ⟨due, leaves⟩ := sample_takes sampled
    · exact ⟨[], .refl q time, .unseen (by simp)⟩
    · exact ⟨_, leaves, .unseen (by simp [Passes])⟩
  | seen sampled =>
    obtain ⟨-, nothing⟩ | ⟨due, leaves⟩ := sample_takes sampled
    · cases nothing
    · have alone : Takes sentinel ([] ++ [⟨due, .ok (some sentinel)⟩]) (.ok true) :=
        .seen due (by simp)
      exact ⟨_, leaves, alone⟩
  | passed sampled other rest ih =>
    obtain ⟨taken, leaves', takes⟩ := ih rest.drain_eq
    obtain ⟨-, nothing⟩ | ⟨due, leaves⟩ := sample_takes sampled
    · cases nothing
    · refine ⟨_, leaves.trans leaves' (Nat.le_refl time), takes.prepend ?_⟩
      simpa [Passes] using other

/-- A wait takes what its looks take, one after the other; all but the last see nothing. -/
theorem watch_takes (m : Monitor) (sentinel : UInt8) (timeout started elapsed : Duration)
    (q : EventQueue) :
    (m.watch channel sentinel timeout started elapsed q).Concludes
      (fun t r => ∃ taken, q.Leaves taken t r)
      (fun t r answer => ∃ taken, q.Leaves taken t r ∧ Takes sentinel taken (lastLook answer))
      (started + elapsed) := by
  fun_induction Monitor.watch m channel sentinel timeout started elapsed q with
  | case1 elapsed q endless =>
    obtain ⟨r, look, drained⟩ := (channel_finite (started + elapsed) q).exists_drain sentinel
    cases endless.symm.trans drained
  | case2 elapsed q r cause drained => exact .done (drain_takes drained)
  | case3 elapsed q r drained => exact .done (drain_takes drained)
  | case4 elapsed q r drained lt pause ih =>
    obtain ⟨taken, leaves, takes⟩ := drain_takes drained
    have later : started + elapsed ≤ started + (elapsed + pause) :=
      Nat.add_le_add_left (Nat.le_add_right elapsed pause) started
    refine .wait ⟨taken, leaves⟩ ?_
    rw [Nat.add_assoc]
    refine ih.mono ?_ ?_
    · rintro t r' le ⟨taken', leaves'⟩
      exact ⟨taken ++ taken', leaves.trans leaves' (Nat.le_trans later le)⟩
    · rintro t r' answer le ⟨taken', leaves', takes'⟩
      exact ⟨taken ++ taken', leaves.trans leaves' (Nat.le_trans later le),
        takes'.prepend takes.passes⟩
  | case5 elapsed q r drained spent => exact .done (drain_takes drained)

theorem pause_concludes (pause now : Duration) (q : EventQueue) :
    (Work.pause pause now q).Concludes (fun _ r => q = r) (fun _ r _ => q = r) now := by
  unfold Work.pause
  split
  · exact .done rfl
  · exact .wait rfl (.done rfl)

/-- Waits one after the other come to an end, with the queue dealt out among them. -/
theorem waits_concludes (ws : List Wait) (now : Duration) (q : EventQueue) :
    (waits ws now q).Concludes (fun t r => ∃ taken, q.Leaves taken t r)
      (fun t r waited => (∃ taken, q.Leaves taken t r) ∧ Served q ws waited r) now := by
  induction ws generalizing now q with
  | nil => exact .done ⟨⟨[], .refl _ _⟩, .nil _⟩
  | cons w rest ih =>
    rw [waits, Work.bind_apply]
    refine .andThen ((pause_concludes w.pause now q).mono ?_ ?_)
    · rintro t _ - rfl
      exact ⟨[], .refl _ t⟩
    rintro start _ - - rfl
    rw [Work.bind_apply]
    have watched := watch_takes (.every w.interval) w.sentinel w.timeout start 0 q
    refine .andThen (watched.mono ?_ ?_)
    · intro t r _ leaves
      exact leaves
    rintro t r answer - ⟨taken, leaves, takes⟩
    refine .andThen (.done (.andThen ((ih t r).mono ?_ ?_)))
    · rintro t' r' le ⟨taken', leaves'⟩
      exact ⟨taken ++ taken', leaves.trans leaves' le⟩
    · rintro t' r' waited le ⟨⟨taken', leaves'⟩, served⟩
      exact .done ⟨⟨taken ++ taken', leaves.trans leaves' le⟩,
        .cons leaves.opened leaves.events takes served⟩

/-- The queue stands in for a device: one byte after some time, or none at all. -/
def Scripted (q : EventQueue) : Prop :=
  q = silent q.opened ∨ ∃ delay byte, q = after q.opened delay byte

theorem Scripted.length_le (h : Scripted q) : q.events.length ≤ 1 := by
  rcases h with none | ⟨delay, byte, one⟩
  · rw [none]
    simp [silent]
  · rw [one]
    simp [after]

/-- Each success takes an event of its own. -/
theorem Served.successes_le {ws : List Wait} {waited : List Waited} (h : Served q ws waited r) :
    waited.countP (·.answer.isOk) ≤ q.events.length := by
  induction h with
  | nil q => simp
  | @cons q left _ w rest answer waited taken opened events takes others ih =>
    have split : q.events.length = taken.length + left.events.length := by
      rw [events, List.length_append]
    rw [List.countP_cons, split]
    have most : (if answer.isOk then 1 else 0) ≤ taken.length := by
      cases answer with
      | error e => exact Nat.zero_le _
      | ok time =>
        cases takes with
        | seen due h => simp [Except.isOk, Except.toBool]
    dsimp only
    omega

/-- **No event is lost, reordered or taken twice, whatever waits follow one another.** The waits
come to an end, and the queue is dealt out among them in order. At every moment what was taken is a
prefix of the queue of which everything was due. A queue that stands in for a device has at most one
wait succeed. -/
theorem waits_serve_in_order (ws : List Wait) (now : Duration) (q : EventQueue) :
    ∃ waited last later, (waits ws now q).finish? now = some (last, waited, later) ∧
      Served q ws waited last ∧
      (∀ moment ∈ (waits ws now q).pauses now ++ [(later, last)],
        ∃ taken, q.Leaves taken moment.1 moment.2) ∧
      (q.Scripted → waited.countP (·.answer.isOk) ≤ 1) := by
  have concludes := waits_concludes ws now q
  obtain ⟨last, waited, later, ends, leaves, served⟩ := concludes.ends
  refine ⟨waited, last, later, ends, served, ?_, ?_⟩
  · rintro ⟨t, r⟩ moment
    rcases List.mem_append.1 moment with paused | atEnd
    · exact concludes.of_mem_pauses paused
    · cases List.mem_singleton.1 atEnd
      exact leaves
  · intro scripted
    exact Nat.le_trans served.successes_le scripted.length_le

/-- A look at a queue of one byte sees it where it is the sentinel and is due. -/
theorem drain_after (opened delay now : Duration) (byte : UInt8) :
    channel.drain byte now (after opened delay byte) =
      some (if opened + delay ≤ now then (silent opened, .ok true)
        else (after opened delay byte, .ok false)) := by
  rw [Channel.drain_eq_some_iff]
  by_cases due : opened + delay ≤ now
  · rw [if_pos due]
    exact .seen (if_pos due)
  · rw [if_neg due]
    exact .nothing (if_neg due)

theorem drain_silent (opened now : Duration) (sentinel : UInt8) :
    channel.drain sentinel now (silent opened) = some (silent opened, .ok false) :=
  Channel.drain_eq_some_iff.2 (.nothing rfl)

/-- A wait that gives up after its first look. -/
theorem await_gives_up {m : Monitor} {now : Duration}
    (unseen : channel.drain sentinel now q = some (q, .ok false)) :
    (m.await channel sentinel 0).Ends now q (.error (.completionTimeout 0 0)) now q := by
  have look := m.finish?_watch channel sentinel 0 now 0 q
  rw [Nat.add_zero, unseen] at look
  exact look

/-- The first of some waits, and those that follow. -/
theorem waits_cons_ends {w : Wait} {rest : List Wait} {left last : EventQueue}
    {answer : Except MonitorError Duration} {waited : List Waited} {now between : Duration}
    (first : ((Monitor.every w.interval).await channel w.sentinel w.timeout).Ends (now + w.pause) q
      answer between left)
    (others : (waits rest).Ends between left waited later last) :
    (waits (w :: rest)).Ends now q (⟨answer, left⟩ :: waited) later last := by
  have paused : (Work.pause w.pause).Ends now q () (now + w.pause) q := by
    unfold Work.pause Work.Ends
    split
    next none => rw [none]; rfl
    next => rfl
  have listed : (waits rest >>= fun others => pure (⟨answer, left⟩ :: others)).Ends between left
      (⟨answer, left⟩ :: waited) later last :=
    Work.ends_bind_iff.2 ⟨_, _, _, others, rfl⟩
  have looked : (Work.look : Work EventQueue EventQueue).Ends between left left between left := rfl
  exact Work.ends_bind_iff.2 ⟨_, _, _, paused, Work.ends_bind_iff.2 ⟨_, _, _, first,
    Work.ends_bind_iff.2 ⟨_, _, _, looked, listed⟩⟩⟩

/-- A wait of one look for the byte `2A`. -/
def glance : Wait := ⟨0, 0, 0x2A, 0⟩

/-- A wait of two milliseconds for this byte. -/
def patient : Wait := ⟨0, 0, 0x2A, Duration.ofMillis 2⟩

/-- A device that sends the byte after a millisecond. -/
def soon : EventQueue := after 0 (Duration.ofMillis 1) 0x2A

theorem drain_soon : channel.drain 0x2A 0 soon = some (soon, .ok false) :=
  (drain_after 0 _ 0 _).trans (congrArg some (if_neg (by decide)))

theorem patient_ends :
    ((Monitor.every patient.interval).await channel patient.sentinel patient.timeout).Ends 0 soon
      (.ok (Duration.ofMillis 1)) (Duration.ofMillis 1) (silent 0) := by
  have next : (Monitor.every 0).next (Duration.ofMillis 2) 0 = Duration.ofMillis 1 := by decide
  have due : channel.drain 0x2A (0 + (Monitor.every 0).next (Duration.ofMillis 2) 0) soon =
      some (silent 0, .ok true) := by
    rw [next]
    exact (drain_after 0 _ _ _).trans (congrArg some (if_pos (Nat.le_refl _)))
  have ends := Monitor.finish?_await_of_second _ _ _ (by decide) drain_soon due
  rw [next, Nat.zero_add] at ends
  exact ends

/-- What three waits answer, of which the second is the one that looks more than once. -/
def threeWaited : List Waited := [
  ⟨.error (.completionTimeout 0 0), soon⟩,
  ⟨.ok (Duration.ofMillis 1), silent 0⟩,
  ⟨.error (.completionTimeout 0 0), silent 0⟩]

theorem waits_soon_ends : (waits [glance, patient, glance]).Ends 0 soon threeWaited
    (Duration.ofMillis 1) (silent 0) :=
  waits_cons_ends (await_gives_up drain_soon) (waits_cons_ends patient_ends
    (waits_cons_ends (await_gives_up (drain_silent 0 _ _)) rfl))

/-- Three waits on a queue that stands in for a device. The first one gives up before the byte is
due, the second one takes it a millisecond later, and nothing is left for the third. -/
theorem scripted_waits_serve : soon.Scripted ∧
    (waits [glance, patient, glance] 0 soon).finish? 0 =
      some (silent 0, threeWaited, Duration.ofMillis 1) ∧
    Served soon [glance, patient, glance] threeWaited (silent 0) ∧
    Takes patient.sentinel soon.events (.ok true) ∧
    threeWaited.countP (·.answer.isOk) = 1 := by
  have scripted : soon.Scripted := .inr ⟨_, _, rfl⟩
  obtain ⟨waited, last, later, ends, served, -, once⟩ :=
    waits_serve_in_order [glance, patient, glance] 0 soon
  obtain ⟨rfl, answered⟩ := Prod.mk.inj (Option.some.inj (waits_soon_ends.symm.trans ends))
  obtain ⟨rfl, -⟩ := Prod.mk.inj answered
  have taken : Takes patient.sentinel ([] ++ soon.events) (.ok true) := .seen _ (by simp)
  exact ⟨scripted, waits_soon_ends, served, taken, Nat.le_antisymm (once scripted) Nat.one_pos⟩

end EventQueue

end CoreTrial
