import CoreTrial.Completion.Device
import CoreTrial.Proofs.FileSystem.Flat
import CoreTrial.Proofs.Log
import Mathlib.Data.List.Basic

/-!
# A device is delivered whole and in order

The reader of a device and whoever samples it take turns in any order, and whoever samples may leave
at any time. What they do is written down as it happens; `Allowed` says of each thing what has to
have happened before it. A turn of the reader or of the sampler loses nothing: what was taken, what
waits, and what the reader has yet to forward are together all that the device brings
(`Line.queued`, `Line.whole`). A reader is over with the failure that it forwards, and stops in a
later turn, so a sampler can find the line empty in between. The reads of a device are a list here,
which is no restriction, as finitely many turns make finitely many reads.
-/

set_option autoImplicit false

namespace CoreTrial

/-! ## What a device brings -/

/-- The outcome of opening a device for reading: its reads, or why there are none. -/
abbrev DeviceSource := Except IoError (List DeviceRead)

namespace DeviceSource

/-- The bytes of reads up to the first failure that is not for now only. -/
def readBytes : List DeviceRead → List UInt8
  | [] => []
  | .ok bytes :: rest => bytes ++ readBytes rest
  | .error e :: rest => if e.isTransient then readBytes rest else []

/-- The first failure of reads that is not for now only. -/
def readFailure? : List DeviceRead → Option IoError
  | [] => none
  | .ok _ :: rest => readFailure? rest
  | .error e :: rest => if e.isTransient then readFailure? rest else some e

/-- All bytes of a device. -/
def stream : DeviceSource → List UInt8
  | .ok reads => readBytes reads
  | .error _ => []

/-- Why a device cannot be read, or cannot be read any further. -/
def failure? : DeviceSource → Option IoError
  | .ok reads => readFailure? reads
  | .error e => some e

/-- Bytes and a failure after them. -/
def messagesOf (bytes : List UInt8) (failure? : Option IoError) : List (Except IoError UInt8) :=
  bytes.map .ok ++ failure?.toList.map .error

/-- All that there is to be forwarded. -/
def messages (source : DeviceSource) : List (Except IoError UInt8) :=
  messagesOf source.stream source.failure?

@[simp]
theorem messagesOf_none (bytes : List UInt8) : messagesOf bytes none = bytes.map .ok :=
  List.append_nil _

@[simp]
theorem messagesOf_some (bytes : List UInt8) (e : IoError) :
    messagesOf bytes (some e) = bytes.map .ok ++ [.error e] := rfl

theorem signals_eq (reads : List DeviceRead) :
    Device.signals reads = messagesOf (readBytes reads) (readFailure? reads) := by
  unfold messagesOf
  induction reads with
  | nil => rfl
  | cons read rest ih =>
    cases read with
    | ok bytes => simp [Device.signals, readBytes, readFailure?, ih]
    | error e =>
      by_cases transient : e.isTransient = true
      · simp [Device.signals, readBytes, readFailure?, transient, ih]
      · simp [Device.signals, readBytes, readFailure?, transient]

/-- A reader that has yet to start has everything to forward. -/
theorem pending_ofSource (path : Path) (opened : Duration) (source : DeviceSource) :
    (Device.ofSource path opened source).pending = source.messages := by
  cases source with
  | ok reads => exact signals_eq reads
  | error e => rfl

theorem filterMap_map_ok (bytes : List UInt8) :
    (bytes.map (Except.ok : UInt8 → Except IoError UInt8)).filterMap Except.toOption = bytes := by
  rw [List.filterMap_map]
  exact List.filterMap_some

theorem filterMap_messagesOf (bytes : List UInt8) (failure? : Option IoError) :
    (messagesOf bytes failure?).filterMap Except.toOption = bytes := by
  rw [messagesOf, List.filterMap_append, filterMap_map_ok]
  cases failure? <;> simp [Except.toOption]

/-- Bytes that a device brings first are a beginning of all its bytes. -/
theorem prefix_of_messages_eq {source : DeviceSource} {bytes : List UInt8}
    {rest : List (Except IoError UInt8)} (h : source.messages = bytes.map .ok ++ rest) :
    bytes <+: source.stream := by
  rw [← filterMap_messagesOf source.stream source.failure?, ← messages, h, List.filterMap_append,
    filterMap_map_ok]
  exact List.prefix_append bytes _

/-- A failure is the last thing that a device brings. -/
theorem eq_of_messages_eq {source : DeviceSource} {x y : List (Except IoError UInt8)} {e : IoError}
    (h : source.messages = x ++ .error e :: y) :
    source.failure? = some e ∧ x = source.stream.map .ok ∧ y = [] := by
  unfold messages messagesOf at h
  generalize source.stream = bytes at h ⊢
  generalize source.failure? = failure at h ⊢
  induction bytes generalizing x with
  | nil =>
    cases failure with
    | none => simp at h
    | some f =>
      cases x with
      | nil =>
        cases h
        exact ⟨rfl, rfl, rfl⟩
      | cons m x => simp at h
  | cons b bytes ih =>
    cases x with
    | nil => cases h
    | cons m x =>
      obtain ⟨rfl, rest⟩ := List.cons.inj h
      obtain ⟨failed, rfl, last⟩ := ih rest
      exact ⟨failed, rfl, last⟩

end DeviceSource

/-! ## A reader and a sampler in turns -/

namespace Device

/-- What happens between a reader and a sampler. -/
inductive Event where
  | forwarded (message : Except IoError UInt8)
  /-- The reader stops. -/
  | stopped
  | answered (answer : Except IoError (Option UInt8))
  /-- The sampler leaves. -/
  | dropped
  deriving DecidableEq

namespace Event

/-- What was forwarded. -/
@[simp]
def message? : Event → Option (Except IoError UInt8)
  | .forwarded m => some m
  | _ => none

/-- The byte that was sampled. -/
@[simp]
def byte? : Event → Option UInt8
  | .answered (.ok b) => b
  | _ => none

/-- The failure that was answered. -/
@[simp]
def error? : Event → Option IoError
  | .answered (.error e) => some e
  | _ => none

end Event

/-- All that was forwarded. -/
def sent (log : List Event) : List (Except IoError UInt8) :=
  log.filterMap Event.message?

/-- The bytes that were sampled. -/
def sampled (log : List Event) : List UInt8 :=
  log.filterMap Event.byte?

/-- The failures that were answered. -/
def refused (log : List Event) : List IoError :=
  log.filterMap Event.error?

@[simp]
theorem sent_append (log more : List Event) :
    sent (log ++ more) = sent log ++ sent more :=
  List.filterMap_append

@[simp]
theorem sent_cons (event : Event) (log : List Event) :
    sent (event :: log) = event.message?.toList ++ sent log := by
  rw [sent, List.filterMap_cons]
  cases event.message? <;> rfl

@[simp]
theorem sampled_append (log more : List Event) :
    sampled (log ++ more) = sampled log ++ sampled more :=
  List.filterMap_append

@[simp]
theorem sampled_cons (event : Event) (log : List Event) :
    sampled (event :: log) = event.byte?.toList ++ sampled log := by
  rw [sampled, List.filterMap_cons]
  cases event.byte? <;> rfl

@[simp]
theorem refused_append (log more : List Event) :
    refused (log ++ more) = refused log ++ refused more :=
  List.filterMap_append

@[simp]
theorem refused_cons (event : Event) (log : List Event) :
    refused (event :: log) = event.error?.toList ++ refused log := by
  rw [refused, List.filterMap_cons]
  cases event.error? <;> rfl

@[simp]
theorem sent_nil : sent [] = [] := rfl

@[simp]
theorem sampled_nil : sampled [] = [] := rfl

@[simp]
theorem refused_nil : refused [] = [] := rfl

/-- What a step of the reader does to others: it forwards, or it stops. -/
def shown (d : Device) : List Event :=
  (d.step.forwarded.drop d.forwarded.length).map .forwarded ++
    if d.running && !d.step.running then [.stopped] else []

/-- Whose turn it is. -/
inductive Turn where
  | reader
  | sampler
  /-- The sampler leaves. -/
  | drop
  deriving DecidableEq, Repr

/-- A device, and what has happened so far. -/
structure Course where
  log : List Event
  device : Device

namespace Course

/-- A device that has just been opened. -/
def start (path : Path) (opened : Duration) (source : DeviceSource) : Course :=
  ⟨[], ofSource path opened source⟩

/-- What is so after a turn. A sampler that has left does nothing any more. -/
def after (c : Course) : Turn → Course
  | .reader => ⟨c.log ++ c.device.shown, c.device.step⟩
  | .sampler =>
    if c.device.listening then ⟨c.log ++ [.answered c.device.take.2], c.device.take.1⟩ else c
  | .drop => if c.device.listening then ⟨c.log ++ [.dropped], c.device.drop⟩ else c

/-- What is so after turns, one after the other. -/
def afterAll (c : Course) (turns : List Turn) : Course :=
  turns.foldl after c

end Course

/-- What was taken from the line. After the first failure, only broken pipes are answered. -/
def taken (log : List Event) : List (Except IoError UInt8) :=
  DeviceSource.messagesOf (sampled log) (refused log).head?

/-- What may happen after all that has happened before. -/
inductive Allowed (path : Path) (source : DeviceSource) (before : List Event) : Event → Prop
  /-- Everything is forwarded once, and in order. -/
  | forwarded {m : Except IoError UInt8} (next : sent before ++ [m] <+: source.messages) :
      Allowed path source before (.forwarded m)
  /-- The reader stops after the failure of its device. -/
  | failed {e : IoError} (failed : source.failure? = some e)
      (told : .forwarded (.error e) ∈ before) : Allowed path source before .stopped
  /-- The reader stops after the sampler has left. -/
  | left (dropped : .dropped ∈ before) : Allowed path source before .stopped
  /-- A byte is the next one of the device. -/
  | byte {b : UInt8} (next : sampled before ++ [b] <+: source.stream)
      (unrefused : refused before = []) : Allowed path source before (.answered (.ok (some b)))
  /-- Nothing is answered where all that was forwarded has been sampled, and the reader has not
  stopped. -/
  | nothing (emptied : sent before = taken before) (running : .stopped ∉ before) :
      Allowed path source before (.answered (.ok none))
  /-- The first failure is that of the device, after all its bytes. -/
  | failure {e : IoError} (failed : source.failure? = some e)
      (all : sampled before = source.stream) (first : refused before = []) :
      Allowed path source before (.answered (.error e))
  /-- The pipe is broken once the failure was answered and the reader has stopped. -/
  | broken (refused : refused before ≠ []) (stopped : .stopped ∈ before) :
      Allowed path source before (.answered (.error (stoppedError path)))
  | dropped : Allowed path source before .dropped

variable {path : Path} {opened : Duration} {source : DeviceSource} {c : Course} {d : Device}

/-! ## What a step of the reader does -/

/-- The reader has nothing left to do but to stop, if it has not yet. -/
def Over (d : Device) : Prop :=
  d.reader = .leaving ∨ d.reader = .stopped

/-- A step keeps what was forwarded and what is yet to be, where somebody listens. -/
theorem kept_step (listens : d.listening = true) :
    d.step.forwarded ++ d.step.pending = d.forwarded ++ d.pending := by
  fun_cases step d with
  | case1 e reader => simp [fail, forward, listens, pending, reader]
  | case2 reader => simp [pending, reader]
  | case3 reader => simp [listens, pending, reader]
  | case4 reader reads => simp [pending, reader]
  | case5 reader read rest reads =>
    cases read with
    | ok bytes => simp [receive, signals, pending, reader, reads]
    | error e =>
      by_cases transient : e.isTransient = true
      · simp [receive, transient, signals, pending, reader, reads]
      · simp [receive, transient, fail, forward, listens, signals, pending, reader, reads]
  | case6 reader => simp [pending, reader]
  | case7 b bytes reader => simp [forward, listens, pending, reader]
  | case8 reader => simp [pending, reader]
  | case9 reader => simp [pending, reader]

/-- What a step of the reader may do. -/
inductive Shows (d : Device) : Prop
  | quiet (shown : d.shown = []) (forwarded : d.step.forwarded = d.forwarded)
      (over_iff : d.listening = true → (d.step.Over ↔ d.Over))
      (stops_iff : d.step.reader = .stopped ↔ d.reader = .stopped)
  | byte (b : UInt8) (listens : d.listening = true) (shown : d.shown = [.forwarded (.ok b)])
      (forwarded : d.step.forwarded = d.forwarded ++ [.ok b]) (runs : ¬ d.Over)
      (goes_on : ¬ d.step.Over)
  | failure (e : IoError) (listens : d.listening = true)
      (shown : d.shown = [.forwarded (.error e)])
      (forwarded : d.step.forwarded = d.forwarded ++ [.error e]) (runs : ¬ d.Over)
      (leaves : d.step.reader = .leaving)
  | stops (leaves : d.reader = .leaving) (shown : d.shown = [.stopped])
      (forwarded : d.step.forwarded = d.forwarded) (stops : d.step.reader = .stopped)

/-- A reader that is not stopped by a step shows what it forwards. -/
theorem shown_of_forwards {messages : List (Except IoError UInt8)}
    (forwarded : d.step.forwarded = d.forwarded ++ messages)
    (stops_iff : d.step.reader = .stopped ↔ d.reader = .stopped) :
    d.shown = messages.map .forwarded := by
  have same : (d.running && !d.step.running) = false := by
    by_cases stopped : d.reader = .stopped
    · simp [running, stopped]
    · simp [running, stopped, mt stops_iff.1 stopped]
  rw [shown, forwarded, List.drop_left, same, if_neg Bool.false_ne_true, List.append_nil]

theorem shows_of_goes_on (runs : ¬ d.Over) (goes_on : ¬ d.step.Over)
    (forwarded : d.step.forwarded = d.forwarded) : d.Shows := by
  have stops_iff : d.step.reader = .stopped ↔ d.reader = .stopped :=
    iff_of_false (fun h => goes_on (.inr h)) fun h => runs (.inr h)
  have nothing : d.step.forwarded = d.forwarded ++ [] := forwarded.trans (List.append_nil _).symm
  exact .quiet (shown_of_forwards nothing stops_iff) forwarded
    (fun _ => iff_of_false goes_on runs) stops_iff

theorem shows_of_byte {b : UInt8} (runs : ¬ d.Over) (goes_on : ¬ d.step.Over)
    (forwarded : d.step.forwarded = d.forwarded ++ [.ok b]) (listens : d.listening = true) :
    d.Shows := by
  have stops_iff : d.step.reader = .stopped ↔ d.reader = .stopped :=
    iff_of_false (fun h => goes_on (.inr h)) fun h => runs (.inr h)
  exact .byte b listens (shown_of_forwards forwarded stops_iff) forwarded runs goes_on

/-- A reader that nobody listens to shows nothing when it leaves. -/
theorem shows_of_deaf (runs : ¬ d.Over) (leaves : d.step.reader = .leaving)
    (forwarded : d.step.forwarded = d.forwarded) (deaf : d.listening = false) : d.Shows := by
  have stops_iff : d.step.reader = .stopped ↔ d.reader = .stopped := by
    rw [leaves]
    exact iff_of_false nofun fun h => runs (.inr h)
  have nothing : d.step.forwarded = d.forwarded ++ [] := forwarded.trans (List.append_nil _).symm
  refine .quiet (shown_of_forwards nothing stops_iff) forwarded (fun listens => ?_) stops_iff
  cases deaf.symm.trans listens

/-- The reader is over with the failure that it forwards, whether anybody listens or not. -/
theorem shows_of_fails {e : IoError} (runs : ¬ d.Over) (leaves : d.step.reader = .leaving)
    (forwarded : d.step.forwarded = d.forward (.error e)) : d.Shows := by
  cases listens : d.listening with
  | true =>
    rw [forward, if_pos listens] at forwarded
    have stops_iff : d.step.reader = .stopped ↔ d.reader = .stopped := by
      rw [leaves]
      exact iff_of_false nofun fun h => runs (.inr h)
    exact .failure e listens (shown_of_forwards forwarded stops_iff) forwarded runs leaves
  | false =>
    have lost : d.step.forwarded = d.forwarded := by simp [forwarded, forward, listens]
    exact shows_of_deaf runs leaves lost listens

theorem step_shows (d : Device) : d.Shows := by
  cases reader : d.reader with
  | opening failure =>
    have runs : ¬ d.Over := by simp [Over, reader]
    cases failure with
    | none => exact shows_of_goes_on runs (by simp [Over, step, reader]) (by simp [step, reader])
    | some e =>
      exact shows_of_fails (e := e) runs (by simp [step, reader, fail])
        (by simp [step, reader, fail])
  | looking =>
    have runs : ¬ d.Over := by simp [Over, reader]
    have same : d.step.forwarded = d.forwarded := by simp [step, reader]
    cases listens : d.listening with
    | true => exact shows_of_goes_on runs (by simp [Over, step, reader, listens]) same
    | false => exact shows_of_deaf runs (by simp [step, reader, listens]) same listens
  | reading =>
    have runs : ¬ d.Over := by simp [Over, reader]
    cases reads : d.reads with
    | nil =>
      exact shows_of_goes_on runs (by simp [Over, step, reader, reads])
        (by simp [step, reader, reads])
    | cons read rest =>
      cases read with
      | ok bytes =>
        exact shows_of_goes_on runs (by simp [Over, step, reader, reads, receive])
          (by simp [step, reader, reads, receive])
      | error e =>
        by_cases transient : e.isTransient = true
        · exact shows_of_goes_on runs (by simp [Over, step, reader, reads, receive, transient])
            (by simp [step, reader, reads, receive, transient])
        · exact shows_of_fails (e := e) runs
            (by simp [step, reader, reads, receive, transient, fail])
            (by simp [step, reader, reads, receive, transient, fail, forward])
  | forwarding bytes =>
    have runs : ¬ d.Over := by simp [Over, reader]
    cases bytes with
    | nil => exact shows_of_goes_on runs (by simp [Over, step, reader]) (by simp [step, reader])
    | cons b bytes =>
      cases listens : d.listening with
      | true =>
        exact shows_of_byte (b := b) runs (by simp [Over, step, reader, listens])
          (by simp [step, reader, forward, listens]) listens
      | false =>
        exact shows_of_deaf runs (by simp [step, reader, listens])
          (by simp [step, reader, forward, listens]) listens
  | leaving =>
    have stops : d.step.reader = .stopped := by simp [step, reader]
    have forwarded : d.step.forwarded = d.forwarded := by simp [step, reader]
    refine .stops reader ?_ forwarded stops
    simp [shown, forwarded, running, reader, stops]
  | stopped =>
    have same : d.step = d := by simp [step, reader]
    refine .quiet ?_ (by rw [same]) (by rw [same]; exact fun _ => .rfl) (by rw [same])
    simp [shown, same]

theorem step_path (d : Device) : d.step.path = d.path := by
  fun_cases step d with
  | case5 reader read rest reads => fun_cases receive _ read <;> rfl
  | _ => rfl

theorem step_listening (d : Device) : d.step.listening = d.listening := by
  fun_cases step d with
  | case5 reader read rest reads => fun_cases receive _ read <;> rfl
  | _ => rfl

/-! ## What every turn keeps -/

/-- Nothing is lost while the sampler is there. -/
structure Line (source : DeviceSource) (c : Course) : Prop where
  queued : sent c.log = taken c.log ++ c.device.forwarded
  whole : sent c.log ++ c.device.pending = source.messages
  over_iff : c.device.Over ↔ ∃ e, .error e ∈ sent c.log

/-- All that happened was allowed, and the device is as it left it. -/
structure Sound (path : Path) (source : DeviceSource) (c : Course) : Prop where
  allowed : ∀ before event, before ++ [event] <+: c.log → Allowed path source before event
  inOrder : sampled c.log <+: source.stream
  path_eq : c.device.path = path
  dropped : c.device.listening = false → .dropped ∈ c.log
  stopped_iff : .stopped ∈ c.log ↔ c.device.reader = .stopped
  line : c.device.listening = true → Line source c

theorem exists_error_mem_taken {log : List Event} :
    (∃ e, .error e ∈ taken log) ↔ refused log ≠ [] := by
  unfold taken
  cases refused log <;> simp

/-- Once a failure was answered, there is nothing left to answer. -/
theorem Line.forwarded_of_refused (line : Line source c) (h : refused c.log ≠ []) :
    c.device.forwarded = [] := by
  obtain ⟨e, es, first⟩ := List.exists_cons_of_ne_nil h
  have whole : source.messages =
      (sampled c.log).map .ok ++ .error e :: (c.device.forwarded ++ c.device.pending) := by
    rw [← line.whole, line.queued, taken, first]
    simp
  obtain ⟨-, -, nothing⟩ := DeviceSource.eq_of_messages_eq whole
  exact (List.append_eq_nil_iff.1 nothing).1

/-- What waits comes next of all that the device brings. -/
theorem Line.next (line : Line source c) {m : Except IoError UInt8}
    {rest : List (Except IoError UInt8)} (waits : c.device.forwarded = m :: rest) :
    refused c.log = [] ∧
      source.messages = (sampled c.log).map .ok ++ m :: (rest ++ c.device.pending) := by
  have unrefused : refused c.log = [] := by
    by_contra h
    rw [line.forwarded_of_refused h] at waits
    cases waits
  refine ⟨unrefused, ?_⟩
  rw [← line.whole, line.queued, taken, unrefused, waits]
  simp

theorem sound_start (path : Path) (opened : Duration) (source : DeviceSource) :
    Sound path source (Course.start path opened source) where
  allowed before event isPrefix := by
    have nothing := List.prefix_nil.1 isPrefix
    simp at nothing
  inOrder := List.nil_prefix
  path_eq := rfl
  dropped listens := by cases listens
  stopped_iff := by cases source <;> simp [Course.start, ofSource]
  line _ := by
    refine ⟨rfl, DeviceSource.pending_ofSource path opened source, ?_⟩
    cases source <;> simp [Course.start, ofSource, sent, Over]

/-- What a step forwards is taken from what the reader has yet to forward. -/
theorem pending_of_forwards {m : Except IoError UInt8} (listens : d.listening = true)
    (forwarded : d.step.forwarded = d.forwarded ++ [m]) : d.pending = m :: d.step.pending := by
  have kept := kept_step listens
  rw [forwarded, List.append_assoc, List.singleton_append] at kept
  exact (List.append_cancel_left kept).symm

/-- A step that forwards nothing keeps the line, if the reader is over just where it was. -/
theorem Line.quiet (line : Line source c) (listens : c.device.listening = true)
    (forwarded : c.device.step.forwarded = c.device.forwarded)
    (over_iff : c.device.step.Over ↔ c.device.Over) {more : List Event} (unsent : sent more = [])
    (unsampled : sampled more = []) (unrefused : refused more = []) :
    Line source ⟨c.log ++ more, c.device.step⟩ := by
  have kept := kept_step listens
  rw [forwarded] at kept
  refine ⟨?_, ?_, ?_⟩
  · simp [forwarded, line.queued, taken, unsent, unsampled, unrefused]
  · simp [List.append_cancel_left kept, line.whole, unsent]
  · simp [over_iff, line.over_iff, unsent]

/-- What a step forwards is the next of all that the device brings. -/
theorem Line.sent_next (line : Line source c) (listens : c.device.listening = true)
    {m : Except IoError UInt8}
    (forwarded : c.device.step.forwarded = c.device.forwarded ++ [m]) :
    source.messages = sent c.log ++ m :: c.device.step.pending := by
  rw [← line.whole, pending_of_forwards listens forwarded]

/-- A step that forwards something keeps the line, if the reader is over with it just where that is
a failure. -/
theorem Line.forwards (line : Line source c) (listens : c.device.listening = true)
    {m : Except IoError UInt8} (runs : ¬ c.device.Over)
    (forwarded : c.device.step.forwarded = c.device.forwarded ++ [m])
    (over_iff : c.device.step.Over ↔ ∃ e, m = .error e) :
    Line source ⟨c.log ++ [.forwarded m], c.device.step⟩ := by
  refine ⟨?_, ?_, ?_⟩
  · simp [forwarded, line.queued, taken]
  · simp [line.sent_next listens forwarded]
  · have no_error := mt line.over_iff.2 runs
    rw [not_exists] at no_error
    simp [over_iff, no_error, eq_comm]

/-- A step that forwards something keeps all the facts, as it does not stop the reader. -/
theorem Sound.forwards (sound : Sound path source c) (listens : c.device.listening = true)
    {m : Except IoError UInt8} (forwarded : c.device.step.forwarded = c.device.forwarded ++ [m])
    (runs : ¬ c.device.Over) (over_iff : c.device.step.Over ↔ ∃ e, m = .error e)
    (goes_on : c.device.step.reader ≠ .stopped) :
    Sound path source ⟨c.log ++ [.forwarded m], c.device.step⟩ := by
  have line := sound.line listens
  have running := mt sound.stopped_iff.1 fun stopped => runs (.inr stopped)
  refine ⟨Log.forall_concat sound.allowed (.forwarded ?_), ?_,
    c.device.step_path.trans sound.path_eq, fun deaf => ?_, ?_, fun _ => ?_⟩
  · exact ⟨c.device.step.pending, by simp [line.sent_next listens forwarded]⟩
  · simpa using sound.inOrder
  · cases listens.symm.trans (c.device.step_listening.symm.trans deaf)
  · simp [running, goes_on]
  · exact line.forwards listens runs forwarded over_iff

/-- What stops a reader is its failure, or that the sampler has left. -/
theorem Sound.may_stop (sound : Sound path source c) (leaves : c.device.reader = .leaving) :
    Allowed path source c.log .stopped := by
  cases listens : c.device.listening with
  | false => exact .left (sound.dropped listens)
  | true =>
    have line := sound.line listens
    obtain ⟨e, told⟩ := line.over_iff.1 (.inl leaves)
    obtain ⟨event, mem, message⟩ := List.mem_filterMap.1 told
    obtain ⟨before, after, split⟩ := List.append_of_mem told
    have whole := line.whole
    rw [split, List.append_assoc, List.cons_append] at whole
    obtain ⟨failed, -, -⟩ := DeviceSource.eq_of_messages_eq whole.symm
    cases event with
    | forwarded m =>
      cases message
      exact .failed failed mem
    | _ => cases message

theorem Sound.reader (sound : Sound path source c) : Sound path source (c.after .reader) := by
  have path_eq : c.device.step.path = path := c.device.step_path.trans sound.path_eq
  have side := c.device.step_listening
  have dropped (more : List Event) (deaf : c.device.step.listening = false) :
      .dropped ∈ c.log ++ more :=
    List.mem_append_left more (sound.dropped (side.symm.trans deaf))
  have log_eq : c.after .reader = ⟨c.log ++ c.device.shown, c.device.step⟩ := rfl
  rw [log_eq]
  cases c.device.step_shows with
  | quiet shown forwarded over_iff stops_iff =>
    rw [shown]
    refine ⟨?_, ?_, path_eq, dropped [], ?_, ?_⟩
    · simpa using sound.allowed
    · simpa using sound.inOrder
    · simp [stops_iff, sound.stopped_iff]
    · intro listens
      have listens' := side.symm.trans listens
      exact (sound.line listens').quiet listens' forwarded (over_iff listens') rfl rfl rfl
  | byte b listens shown forwarded runs goes_on =>
    rw [shown]
    exact sound.forwards listens forwarded runs (by simp [goes_on]) fun stopped =>
      goes_on (.inr stopped)
  | failure e listens shown forwarded runs leaves =>
    rw [shown]
    exact sound.forwards listens forwarded runs (by simp [Over, leaves]) (by simp [leaves])
  | stops leaves shown forwarded stops =>
    rw [shown]
    refine ⟨Log.forall_concat sound.allowed (sound.may_stop leaves), ?_, path_eq, dropped _, ?_, ?_⟩
    · simpa using sound.inOrder
    · simp [stops]
    · intro listens
      have listens' := side.symm.trans listens
      exact (sound.line listens').quiet listens' forwarded
        (iff_of_true (.inr stops) (.inl leaves)) rfl rfl rfl

/-- A sample changes what waits and nothing else. -/
theorem Sound.answered (sound : Sound path source c) (listens : c.device.listening = true)
    {answer : Except IoError (Option UInt8)} {rest : List (Except IoError UInt8)}
    (allowed : Allowed path source c.log (.answered answer))
    (moved : taken (c.log ++ [.answered answer]) ++ rest = taken c.log ++ c.device.forwarded) :
    Sound path source
      ⟨c.log ++ [.answered answer], { c.device with forwarded := rest }⟩ := by
  have line := sound.line listens
  refine ⟨Log.forall_concat sound.allowed allowed, ?_, sound.path_eq, ?_, ?_, fun _ => ?_⟩
  · cases allowed with
    | byte next unrefused => simpa using next
    | nothing emptied running => simpa using sound.inOrder
    | failure failed all first => simpa using sound.inOrder
    | broken refused stopped => simpa using sound.inOrder
  · intro deaf
    cases listens.symm.trans deaf
  · simp [sound.stopped_iff]
  · have unsent : sent (c.log ++ [.answered answer]) = sent c.log := by simp
    refine ⟨?_, ?_, ?_⟩
    · rw [unsent, moved, ← line.queued]
    · rw [unsent]
      exact line.whole
    · rw [unsent]
      exact line.over_iff

/-- A sample of a channel in which nothing waits. -/
theorem Sound.takes_nothing (sound : Sound path source c) (listens : c.device.listening = true)
    (waits : c.device.forwarded = []) :
    Sound path source ⟨c.log ++ [.answered c.device.take.2], c.device.take.1⟩ := by
  have line := sound.line listens
  have sent_eq : sent c.log = taken c.log := by rw [line.queued, waits, List.append_nil]
  by_cases stops : c.device.reader = .stopped
  · -- Everything was sampled, and so was the failure that the reader was over with.
    have refused : refused c.log ≠ [] := by
      rw [← exists_error_mem_taken, ← sent_eq]
      exact line.over_iff.1 (.inr stops)
    have answer : c.device.take = (c.device, .error (stoppedError path)) := by
      simp [take, waits, running, stops, sound.path_eq]
    rw [answer]
    refine sound.answered listens (.broken refused (sound.stopped_iff.2 stops)) ?_
    obtain ⟨e, es, first⟩ := List.exists_cons_of_ne_nil refused
    simp [taken, first]
  · have answer : c.device.take = (c.device, .ok none) := by
      simp [take, waits, running, stops]
    rw [answer]
    refine sound.answered listens (.nothing sent_eq (mt sound.stopped_iff.1 stops)) ?_
    simp [taken]

/-- A sample takes the first message that waits. -/
theorem Sound.takes_message {m : Except IoError UInt8} {rest : List (Except IoError UInt8)}
    (sound : Sound path source c) (listens : c.device.listening = true)
    (waits : c.device.forwarded = m :: rest) :
    Sound path source ⟨c.log ++ [.answered c.device.take.2], c.device.take.1⟩ := by
  obtain ⟨unrefused, whole⟩ := (sound.line listens).next waits
  cases m with
  | ok b =>
    have answer : c.device.take = ({ c.device with forwarded := rest }, .ok (some b)) := by
      simp [take, waits]
    rw [answer]
    have next : source.messages =
        (sampled c.log ++ [b]).map .ok ++ (rest ++ c.device.pending) := by simp [whole]
    refine sound.answered listens (.byte (DeviceSource.prefix_of_messages_eq next) unrefused) ?_
    simp [taken, unrefused, waits]
  | error e =>
    have answer : c.device.take = ({ c.device with forwarded := rest }, .error e) := by
      simp [take, waits]
    obtain ⟨failed, all, -⟩ := DeviceSource.eq_of_messages_eq whole
    rw [answer]
    refine sound.answered listens (.failure failed ?_ unrefused) ?_
    · exact List.map_injective_iff.2 (fun _ _ h => Except.ok.inj h) all
    · simp [taken, unrefused, waits]

theorem Sound.sampler (sound : Sound path source c) : Sound path source (c.after .sampler) := by
  cases listens : c.device.listening with
  | false =>
    have same : c.after .sampler = c := by simp [Course.after, listens]
    rwa [same]
  | true =>
    have log_eq : c.after .sampler =
        ⟨c.log ++ [.answered c.device.take.2], c.device.take.1⟩ := by
      simp [Course.after, listens]
    rw [log_eq]
    cases waits : c.device.forwarded with
    | nil => exact sound.takes_nothing listens waits
    | cons m rest => exact sound.takes_message listens waits

theorem Sound.drop (sound : Sound path source c) : Sound path source (c.after .drop) := by
  cases listens : c.device.listening with
  | false =>
    have same : c.after .drop = c := by simp [Course.after, listens]
    rwa [same]
  | true =>
    have log_eq : c.after .drop = ⟨c.log ++ [.dropped], c.device.drop⟩ := by
      simp [Course.after, listens]
    rw [log_eq]
    refine ⟨Log.forall_concat sound.allowed .dropped, ?_, sound.path_eq, ?_, ?_, ?_⟩
    · simpa using sound.inOrder
    · simp
    · simp [sound.stopped_iff, Device.drop]
    · intro still
      cases still

theorem Sound.after (sound : Sound path source c) (turn : Turn) :
    Sound path source (c.after turn) := by
  cases turn with
  | reader => exact sound.reader
  | sampler => exact sound.sampler
  | drop => exact sound.drop

theorem Sound.afterAll (sound : Sound path source c) (turns : List Turn) :
    Sound path source (c.afterAll turns) := by
  induction turns generalizing c with
  | nil => exact sound
  | cons turn turns ih => exact ih (sound.after turn)

/-! ## A reader that is given time forwards everything -/

theorem Course.afterAll_append (c : Course) (turns more : List Turn) :
    c.afterAll (turns ++ more) = (c.afterAll turns).afterAll more :=
  List.foldl_append

theorem Course.device_after_readers (c : Course) (n : Nat) :
    (c.afterAll (List.replicate n .reader)).device = steps n c.device := by
  induction n generalizing c with
  | zero => rfl
  | succ n ih => exact ih (c.after .reader)

theorem listening_steps (n : Nat) (d : Device) : (steps n d).listening = d.listening := by
  induction n generalizing d with
  | zero => rfl
  | succ n ih => exact (ih d.step).trans d.step_listening

theorem exists_sample_eq (now : Duration) (d : Device) :
    ∃ n, d.sample now = (steps n d).take := by
  by_cases started : d.opened < now
  · exact ⟨d.stepsLeft, if_pos started⟩
  · exact ⟨0, if_neg started⟩

/-- A sample of the channel is a turn of the sampler after some turns of the reader. -/
theorem sample_is_turns (listens : c.device.listening = true) (now : Duration) :
    ∃ turns, .drop ∉ turns ∧ (c.afterAll turns).device = (c.device.sample now).1 ∧
      (c.afterAll turns).log.getLast? = some (.answered (c.device.sample now).2) := by
  obtain ⟨n, sample_eq⟩ := exists_sample_eq now c.device
  obtain ⟨read, read_eq⟩ : ∃ read, read = c.afterAll (List.replicate n .reader) := ⟨_, rfl⟩
  have device : read.device = steps n c.device := by rw [read_eq, c.device_after_readers]
  have still : read.device.listening = true := by
    rw [device, listening_steps]
    exact listens
  have last : c.afterAll (List.replicate n .reader ++ [.sampler]) =
      ⟨read.log ++ [.answered read.device.take.2], read.device.take.1⟩ := by
    rw [Course.afterAll_append, ← read_eq]
    exact if_pos still
  refine ⟨List.replicate n .reader ++ [.sampler], by simp, ?_, ?_⟩
  · rw [last, sample_eq, device]
  · rw [last, sample_eq, device, List.getLast?_concat]

end Device

end CoreTrial
