import CoreTrial.Benchmark
import CoreTrial.Proofs.Machine.Transfer
import CoreTrial.Run.Draft

/-!
# Programs end in a loop

A program is made only of a list whose last word loops in place, so a core that comes to the end of
it stays there. This is the one condition that is checked: a list is refused exactly when it has no
such last word, when it is put together and when it is read from a record. A program within the
record of a draft or of a run is read by the same rule.
-/

set_option autoImplicit false

namespace CoreTrial

open Machine (LoopsInPlace execute?)

/-- There is a last word, and it loops in place. -/
def EndsInLoop (instructions : List Instruction) : Prop :=
  ∃ last, instructions.getLast? = some last ∧ LoopsInPlace last.word

theorem endsInTerminator_iff (instructions : List Instruction) :
    endsInTerminator instructions = true ↔ EndsInLoop instructions := by
  unfold endsInTerminator EndsInLoop
  rw [Option.any_eq_true]
  simp only [Machine.isTerminator_iff]

namespace Program

variable {name : String} {instructions : List Instruction} {j : Json}

theorem make_of_endsInLoop (h : EndsInLoop instructions) :
    ∃ p, make name instructions = .ok p :=
  ⟨_, dif_pos ((endsInTerminator_iff instructions).2 h)⟩

/-- A list that does not end in a loop is refused, with its last word if it has one. -/
theorem make_of_not_endsInLoop (h : ¬ EndsInLoop instructions) :
    make name instructions = .error (match instructions.getLast? with
      | none => .empty name
      | some last => .missingTerminator name last.word) := by
  rw [make, dif_neg (mt (endsInTerminator_iff instructions).1 h)]
  cases instructions.getLast? <;> rfl

theorem make_eq_error_iff :
    (∃ e, make name instructions = .error e) ↔
      instructions = [] ∨ ∃ last, instructions.getLast? = some last ∧ ¬ LoopsInPlace last.word := by
  by_cases loop : EndsInLoop instructions
  · obtain ⟨p, made⟩ : ∃ p, make name instructions = .ok p := make_of_endsInLoop loop
    obtain ⟨last, there, loops⟩ := loop
    constructor
    · rintro ⟨e, refused⟩
      cases made.symm.trans refused
    · rintro (rfl | ⟨other, same, stops⟩)
      · cases there
      · cases there.symm.trans same
        exact absurd loops stops
  · refine ⟨fun _ => ?_, fun _ => ⟨_, make_of_not_endsInLoop loop⟩⟩
    cases there : instructions.getLast? with
    | none => exact .inl (List.getLast?_eq_none_iff.1 there)
    | some last => exact .inr ⟨last, rfl, fun loops => loop ⟨last, there, loops⟩⟩

theorem parts_of_make {p : Program} (h : make name instructions = .ok p) :
    p.name = name ∧ p.instructions = instructions := by
  unfold make at h
  split at h
  · cases h
    exact ⟨rfl, rfl⟩
  · split at h <;> cases h

/-- The name and the instructions that the record of a program gives. -/
def parts? (j : Json) : Option (String × List Instruction) :=
  match Json.slots? ["name", "instructions"] j with
  | some [name, instructions] => do
    let name ← name.required Json.string?
    let instructions ← instructions.required (Json.list? Instruction.ofJson?)
    return (name, instructions)
  | _ => none

/-- A record is read as its parts, which are put together. -/
theorem ofJson?_eq_bind (j : Json) :
    ofJson? j = (parts? j).bind fun parts => (make parts.1 parts.2).toOption := by
  unfold ofJson? parts?
  generalize Json.slots? ["name", "instructions"] j = slots
  match slots with
  | some [name, instructions] => simp [Option.bind_assoc]
  | none | some [] | some [_] | some (_ :: _ :: _ :: _) => rfl

/-- What was read of a record is what the record gives. -/
theorem parts?_of_ofJson? {p : Program} (h : ofJson? j = some p) :
    parts? j = some (p.name, p.instructions) := by
  rw [ofJson?_eq_bind] at h
  obtain ⟨⟨name, instructions⟩, given, made⟩ := Option.bind_eq_some_iff.1 h
  cases built : make name instructions with
  | error e =>
    rw [built] at made
    cases made
  | ok q =>
    rw [built] at made
    cases made
    obtain ⟨rfl, rfl⟩ := parts_of_make built
    exact given

theorem ofJson?_eq_none_iff (given : parts? j = some (name, instructions)) :
    ofJson? j = none ↔ ∃ e, make name instructions = .error e := by
  rw [ofJson?_eq_bind, given, Option.bind_some]
  cases make name instructions <;> simp [Except.toOption]

/-- Every program ends in a loop. -/
theorem endsInLoop (p : Program) : EndsInLoop p.instructions :=
  (endsInTerminator_iff p.instructions).1 p.terminated

end Program

/-- The value of the field `program`, in a record whose second field it is. -/
def programField? (j : Json) : Option Json :=
  match j with
  | .object _ => j.field? "program"
  | .array items => items[1]?
  | _ => none

theorem Json.field?_of_slotOf {fields : List (String × Json)} {name : String} {v : Json}
    (h : slotOf fields name = some (.given v)) : field? name (.object fields) = some v := by
  unfold slotOf at h
  split at h
  · cases h
  · rename_i f only
    cases h
    rw [field?, ← List.head?_filter, only]
    rfl
  · cases h

/-- The second slot of a record holds what its second field does. -/
theorem programField?_of_slots? {id : String} {names : List String} {j v : Json} {first : Json.Slot}
    {rest : List Json.Slot}
    (h : Json.slots? (id :: "program" :: names) j = some (first :: .given v :: rest)) :
    programField? j = some v := by
  unfold Json.slots? at h
  split at h
  · simp only [List.mapM_cons, Option.pure_def, Option.bind_eq_bind, Option.bind_eq_some_iff,
      Option.some.injEq, List.cons.injEq] at h
    obtain ⟨_, _, _, ⟨_, given, _, _, rfl⟩, _, rfl, _⟩ := h
    exact Json.field?_of_slotOf given
  · rename_i items
    split at h
    · -- A slot that is given stands for an item.
      match items with
      | [] => simp [List.replicate_succ] at h
      | [_] => simp [List.replicate_succ] at h
      | _ :: second :: _ =>
        simp only [List.map_cons, List.cons_append, Option.some.injEq, List.cons.injEq,
          Json.Slot.given.injEq] at h
        rw [← h.2.1]
        rfl
    · cases h
  · cases h

theorem Json.Slot.given_of_required {α : Type} {read : Json → Option α} {s : Slot} {a : α}
    (h : s.required read = some a) : ∃ v, s = .given v ∧ read v = some a := by
  cases s with
  | given v => exact ⟨v, rfl, h⟩
  | absent => cases h
  | beyond => cases h

/-- The program of a draft that is read is read from the draft's record. -/
theorem Draft.program_of_ofJson? {j : Json} {d : Draft} (h : ofJson? j = some d) :
    ∃ v, programField? j = some v ∧ Program.ofJson? v = some d.program := by
  unfold ofJson? at h
  split at h
  · rename_i slots
    simp only [Option.bind_eq_bind, Option.bind_eq_some_iff, Option.pure_def,
      Option.some.injEq] at h
    obtain ⟨_, _, program, required, _, _, _, _, _, _, _, _, _, _, _, _, _, _, rfl⟩ := h
    obtain ⟨v, rfl, read⟩ := Json.Slot.given_of_required required
    exact ⟨v, programField?_of_slots? slots, read⟩
  · cases h

/-- The program of a run that is read is read from the run's record. -/
theorem CompletedRun.program_of_ofJson? {j : Json} {r : CompletedRun} (h : ofJson? j = some r) :
    ∃ v, programField? j = some v ∧ Program.ofJson? v = some r.program := by
  unfold ofJson? at h
  split at h
  · rename_i slots
    simp only [Option.bind_eq_bind, Option.bind_eq_some_iff, Option.pure_def,
      Option.some.injEq] at h
    obtain ⟨_, _, program, required, _, _, _, _, _, _, _, _, _, _, _, _, _, _, _, _, _, _, rfl⟩ := h
    obtain ⟨v, rfl, read⟩ := Json.Slot.given_of_required required
    exact ⟨v, programField?_of_slots? slots, read⟩
  · cases h

namespace Program

/-- **No program lets a core run past its end.** Terminators are exactly the jumps and the equality
branches of a register with itself that go nowhere. Every program has such a last word, and a core
that executes it stays at it, wherever it is and whatever its registers hold. A list is put
together, or read from a record that gives it, unless it is empty or its last word is another one;
and the program of a draft or a run that is read from a record was read in this way. -/
theorem core_stays_at_last_word :
    (∀ i : Instruction, i.isTerminator = true ↔
      (∃ link, Machine.decode? i.word = some (.jal link 0)) ∨
        ∃ r, Machine.decode? i.word = some (.branch .eq r r 0)) ∧
    (∀ p : Program, ∃ last, p.instructions.getLast? = some last ∧ LoopsInPlace last.word ∧
      ∀ core, ∃ core', execute? last.word core = some core' ∧ core'.pc = core.pc) ∧
    (∀ name instructions,
      ((∃ e, make name instructions = .error e) ↔ instructions = [] ∨
        ∃ last, instructions.getLast? = some last ∧ ¬ LoopsInPlace last.word) ∧
      ∀ p, make name instructions = .ok p → p.name = name ∧ p.instructions = instructions) ∧
    (∀ j name instructions, parts? j = some (name, instructions) →
      (ofJson? j = none ↔ instructions = [] ∨
        ∃ last, instructions.getLast? = some last ∧ ¬ LoopsInPlace last.word) ∧
      ∀ p, ofJson? j = some p → p.name = name ∧ p.instructions = instructions) ∧
    (∀ j d, Draft.ofJson? j = some d → ∃ v, programField? j = some v ∧ ofJson? v = some d.program) ∧
    ∀ j r, CompletedRun.ofJson? j = some r →
      ∃ v, programField? j = some v ∧ ofJson? v = some r.program := by
  refine ⟨Machine.isTerminator_iff, ?_, ?_, ?_, fun j d => Draft.program_of_ofJson?,
    fun j r => CompletedRun.program_of_ofJson?⟩
  · intro p
    obtain ⟨last, there, loops⟩ := p.endsInLoop
    exact ⟨last, there, loops, loops.execute⟩
  · intro name instructions
    exact ⟨make_eq_error_iff, fun p => parts_of_make⟩
  · intro j name instructions given
    refine ⟨(ofJson?_eq_none_iff given).trans make_eq_error_iff, fun p read => ?_⟩
    cases given.symm.trans (parts?_of_ofJson? read)
    exact ⟨rfl, rfl⟩

/-- The record of a program of one word. -/
def oneWordRecord (word : Int) : Json :=
  .object [("name", .string "x"),
    ("instructions", .array [.object [("word", .int word), ("comment", .string "")]])]

/-- A core that comes to the last word of `matmul` stays at it; a record whose only word is no
jump is refused. -/
theorem core_stays_at_halt :
    (∃ last, Benchmark.matmul.instructions.getLast? = some last ∧ last.word = 0x6F ∧
      ∀ core, ∃ core', execute? last.word core = some core' ∧ core'.pc = core.pc) ∧
    parts? (oneWordRecord 1) = some ("x", [⟨1, ""⟩]) ∧ ofJson? (oneWordRecord 1) = none := by
  obtain ⟨iff, stays, -, reads, -⟩ := core_stays_at_last_word
  have given : parts? (oneWordRecord 1) = some ("x", [⟨1, ""⟩]) := by rfl
  refine ⟨?_, given, (reads _ _ _ given).1.2 (.inr ⟨⟨1, ""⟩, rfl, fun loops => ?_⟩)⟩
  · obtain ⟨last, there, -, halts⟩ := stays Benchmark.matmul
    cases there
    exact ⟨_, rfl, rfl, halts⟩
  · have terminates := (iff ⟨1, ""⟩).2 loops
    revert terminates
    decide

end Program

end CoreTrial
