import CoreTrial.Benchmark
import CoreTrial.Proofs.Log
import CoreTrial.Proofs.Machine.Execution
import CoreTrial.Settings.Pipeline
import Mathlib.Data.Nat.Bitwise

/-!
# What `matmul` does

The addition of `matmul` is executed a hundred times. Then the status of the serial line is loaded
until its second bit is set, the letter that a monitor waits for is stored to the line, and the core
stays at the last word. This holds from any registers on and whatever the loads find. Each word is
executed at one of a few places, which say what the registers and the log hold there; one step leads
from a place to a place.
-/

set_option autoImplicit false

namespace CoreTrial

open Machine

/-- The word loaded a value whose second bit is set: the line can send. -/
def Machine.Executed.isReady (e : Executed) : Bool :=
  match e.access with
  | some (.load _ _ value) => value.toNat.testBit 1
  | _ => false

namespace Benchmark

/-- The numbers below name registers. -/
local instance neZero_registers : NeZero 32 := ⟨by decide⟩

/-- The operations that the words of `matmul` stand for. Either branch goes back two words, which is
eight bytes. -/
def operations : List Operation := [
  .upper 3 0x20000000,
  .withConstant .add 1 0 10,
  .withConstant .add 2 0 20,
  .withConstant .add 5 0 100,
  .withRegister .add 4 1 2,
  .withConstant .add 5 5 (-1),
  .transfer (.branch .ne 5 0 (-8)),
  .load .word true 6 3 4,
  .withConstant .and 6 6 2,
  .transfer (.branch .eq 6 0 (-8)),
  .withConstant .add 7 0 68,
  .store .word 3 7 0,
  .transfer (.jal 0 0)]

theorem operation?_matmul :
    ∀ i < operations.length, (matmul.words[i]?).bind operation? = operations[i]? := by
  decide

/-- How often the addition was executed. -/
def additions (base : UInt32) (log : List Executed) : Nat :=
  log.countP (·.address == addressOf base 4)

/-- What the word that is executed next may be and do, by what was executed before it. -/
structure Permitted (base : UInt32) (before : List Executed) (e : Executed) : Prop where
  inside : ∃ i < matmul.size, e.address = addressOf base i
  load : ∀ width address value, e.access = some (.load width address value) →
    width = .word ∧ address = 0x20000004 ∧ additions base before = 100 ∧
      before.any (·.isReady) = false
  store : ∀ width address value, e.access = some (.store width address value) →
    width = .word ∧ address = 0x20000000 ∧ value = .ofNat ({} : MonitorSettings).sentinel.toNat ∧
      before.any (·.isReady) = true ∧ before.any (·.isStore) = false
  halted : before.any (·.isStore) = true → e = ⟨addressOf base 12, none⟩

/-- Four words after the line was found ready, something has been stored. -/
def Answered (log : List Executed) : Prop :=
  ∀ before e after, before ++ e :: after = log → e.isReady = true → 4 ≤ after.length →
    after.any (·.isStore) = true

/-- After the line was found ready, something has been stored. -/
def Sent (log : List Executed) : Prop :=
  ∀ before e after, before ++ e :: after = log → e.isReady = true →
    after.any (·.isStore) = true

/-- As many words have been executed since the line was found ready, if it was. -/
def Since (n : Nat) (log : List Executed) : Prop :=
  ∀ before e after, before ++ e :: after = log → e.isReady = true → after.length = n

/-- What a log comes to: how often the addition was executed, whether the line was found ready, and
whether anything was stored. -/
structure Summary (base : UInt32) (n : Nat) (ready stored : Bool) (log : List Executed) : Prop where
  additions_eq : additions base log = n
  ready_eq : log.any (·.isReady) = ready
  stored_eq : log.any (·.isStore) = stored

/-- Where an execution is. -/
inductive Place (base : UInt32) (s : Execution) : Prop where
  | setUp (i : Nat) (early : i ≤ 3) (pc : s.core.pc = addressOf base i)
      (line : 0 < i → s.core.read 3 = 0x20000000) (summary : Summary base 0 false false s.log)
      (length : s.log.length = i)
  | add (k : Nat) (more : k < 100) (pc : s.core.pc = addressOf base 4)
      (line : s.core.read 3 = 0x20000000) (counter : s.core.read 5 = .ofNat (100 - k))
      (summary : Summary base k false false s.log) (length : s.log.length = 4 + 3 * k)
  | count (k : Nat) (more : k < 100) (pc : s.core.pc = addressOf base 5)
      (line : s.core.read 3 = 0x20000000) (counter : s.core.read 5 = .ofNat (100 - k))
      (summary : Summary base (k + 1) false false s.log) (length : s.log.length = 5 + 3 * k)
  | repeats (k : Nat) (more : k < 100) (pc : s.core.pc = addressOf base 6)
      (line : s.core.read 3 = 0x20000000) (counter : s.core.read 5 = .ofNat (100 - (k + 1)))
      (summary : Summary base (k + 1) false false s.log) (length : s.log.length = 6 + 3 * k)
  | poll (pc : s.core.pc = addressOf base 7) (line : s.core.read 3 = 0x20000000)
      (summary : Summary base 100 false false s.log)
      (begun : 304 < s.log.length → s.log.any (·.isLoad) = true)
  | polled (ready : Bool) (pc : s.core.pc = addressOf base 8) (line : s.core.read 3 = 0x20000000)
      (status : (s.core.read 6).toNat.testBit 1 = ready)
      (summary : Summary base 100 ready false s.log) (begun : s.log.any (·.isLoad) = true)
      (since : Since 0 s.log)
  | masked (ready : Bool) (pc : s.core.pc = addressOf base 9) (line : s.core.read 3 = 0x20000000)
      (status : s.core.read 6 = 0 ↔ ready = false)
      (summary : Summary base 100 ready false s.log) (begun : s.log.any (·.isLoad) = true)
      (since : Since 1 s.log)
  | letter (pc : s.core.pc = addressOf base 10) (line : s.core.read 3 = 0x20000000)
      (summary : Summary base 100 true false s.log) (begun : s.log.any (·.isLoad) = true)
      (since : Since 2 s.log)
  | send (pc : s.core.pc = addressOf base 11) (line : s.core.read 3 = 0x20000000)
      (value : s.core.read 7 = 68) (summary : Summary base 100 true false s.log)
      (begun : s.log.any (·.isLoad) = true) (since : Since 3 s.log)
  | halt (pc : s.core.pc = addressOf base 12) (summary : Summary base 100 true true s.log)
      (begun : s.log.any (·.isLoad) = true) (sent : Sent s.log)

section Log

variable {log : List Executed} {e : Executed} {n : Nat} {base : UInt32} {ready stored : Bool}

theorem begun_concat (begun : log.any (·.isLoad) = true) (e : Executed) :
    (log ++ [e]).any (·.isLoad) = true := by
  rw [List.any_append, begun, Bool.true_or]

theorem isReady_of_not_ready (h : log.any (·.isReady) = false) {before after : List Executed}
    (whole : before ++ e :: after = log) : e.isReady = false := by
  rw [← whole, List.any_append, List.any_cons] at h
  simp only [Bool.or_eq_false_iff] at h
  exact h.2.1

theorem since_zero_concat (h : log.any (·.isReady) = false) : Since 0 (log ++ [e]) := by
  intro before e' after whole ready
  rcases Log.eq_concat_cases whole with ⟨rfl, -, -⟩ | ⟨rest, rfl, inside⟩
  · rfl
  · cases (isReady_of_not_ready h inside).symm.trans ready

theorem Since.concat (h : Since n log) (quiet : e.isReady = false) :
    Since (n + 1) (log ++ [e]) := by
  intro before e' after whole ready
  rcases Log.eq_concat_cases whole with ⟨-, -, rfl⟩ | ⟨rest, rfl, inside⟩
  · cases quiet.symm.trans ready
  · rw [List.length_append, h _ _ _ inside ready]
    rfl

theorem Since.answered (h : Since n log) (few : n < 4) : Answered log := by
  intro before e after whole ready many
  have := h _ _ _ whole ready
  omega

theorem answered_of_not_ready (h : log.any (·.isReady) = false) : Answered log := by
  intro before e after whole ready
  cases (isReady_of_not_ready h whole).symm.trans ready

theorem sent_concat_store (quiet : e.isReady = false) (store : e.isStore = true) :
    Sent (log ++ [e]) := by
  intro before e' after whole ready
  rcases Log.eq_concat_cases whole with ⟨-, -, rfl⟩ | ⟨rest, rfl, -⟩
  · cases quiet.symm.trans ready
  · rw [List.any_append, List.any_cons, store, Bool.true_or, Bool.or_true]

theorem Sent.concat (h : Sent log) (quiet : e.isReady = false) : Sent (log ++ [e]) := by
  intro before e' after whole ready
  rcases Log.eq_concat_cases whole with ⟨-, -, rfl⟩ | ⟨rest, rfl, inside⟩
  · cases quiet.symm.trans ready
  · rw [List.any_append, h _ _ _ inside ready, Bool.true_or]

theorem additions_concat (log : List Executed) {i : Nat} (inside : i < 13)
    (access : Option Access) :
    additions base (log ++ [⟨addressOf base i, access⟩]) =
      additions base log + if i = 4 then 1 else 0 := by
  have same : (addressOf base i == addressOf base 4) = decide (i = 4) := by
    rw [Bool.eq_iff_iff, beq_iff_eq, decide_eq_true_iff]
    exact addressOf_inj (by omega) (by omega)
  rw [additions, List.countP_append, List.countP_singleton, same]
  simp [additions]

/-- The addition is counted. -/
theorem Summary.add (h : Summary base n ready stored log) :
    Summary base (n + 1) ready stored (log ++ [⟨addressOf base 4, none⟩]) where
  additions_eq := by rw [additions_concat log (by decide), h.additions_eq, if_pos rfl]
  ready_eq := by rw [List.any_append, h.ready_eq]; exact Bool.or_false _
  stored_eq := by rw [List.any_append, h.stored_eq]; exact Bool.or_false _

theorem Summary.access (h : Summary base n ready stored log) {i : Nat} (inside : i < 13)
    (other : i ≠ 4) (access : Option Access) {ready' stored' : Bool}
    (found : (ready || (⟨addressOf base i, access⟩ : Executed).isReady) = ready')
    (sent : (stored || (⟨addressOf base i, access⟩ : Executed).isStore) = stored') :
    Summary base n ready' stored' (log ++ [⟨addressOf base i, access⟩]) where
  additions_eq := by rw [additions_concat log inside, h.additions_eq, if_neg other, Nat.add_zero]
  ready_eq := by
    rw [List.any_append, h.ready_eq, ← found, List.any_cons, List.any_nil, Bool.or_false]
  stored_eq := by
    rw [List.any_append, h.stored_eq, ← sent, List.any_cons, List.any_nil, Bool.or_false]

/-- Another word that accesses nothing changes nothing. -/
theorem Summary.quiet (h : Summary base n ready stored log) {i : Nat} (inside : i < 13)
    (other : i ≠ 4) : Summary base n ready stored (log ++ [⟨addressOf base i, none⟩]) :=
  h.access inside other none (Bool.or_false _) (Bool.or_false _)

end Log

section Step

variable {first : UInt32} {values : Nat → UInt32} {s : Execution} {i : Nat}

variable (values) in
/-- A core at a word of `matmul` executes the operation that the word stands for. -/
theorem step?_of_operation {operation : Operation} (pc : s.core.pc = addressOf (4 * first) i)
    (there : operations[i]? = some operation) :
    ∃ value, s.step? matmul.words (4 * first) values =
      some ⟨(operation.execute value s.core).1,
        s.log ++ [⟨addressOf (4 * first) i, (operation.execute value s.core).2⟩]⟩ := by
  obtain ⟨inside, -⟩ := List.getElem?_eq_some_iff.1 there
  have short : operations.length = 13 := rfl
  have decoded := operation?_matmul i inside
  rw [there] at decoded
  obtain ⟨word, at_i, decoded⟩ := Option.bind_eq_some_iff.1 decoded
  refine ⟨values (s.log.countP (·.isLoad)), ?_⟩
  rw [Execution.step?, pc, fetch?_addressOf _ _ (by omega), at_i]
  simp only [Option.bind_eq_bind, Option.bind_some, decoded, Option.pure_def]

/-- A word that accesses nothing is permitted as long as nothing was stored. -/
theorem Permitted.quiet {base : UInt32} {before : List Executed} (inside : i < 13)
    (unsent : before.any (·.isStore) = false) :
    Permitted base before ⟨addressOf base i, none⟩ where
  inside := ⟨i, inside, rfl⟩
  load _ _ _ h := by cases h
  store _ _ _ h := by cases h
  halted h := by cases unsent.symm.trans h

variable (first values s) in
/-- One more word is executed, which is permitted, and leads to a place. -/
def GoesOn : Prop :=
  ∃ s' e, s.step? matmul.words (4 * first) values = some s' ∧ s'.log = s.log ++ [e] ∧
    Permitted (4 * first) s.log e ∧ Place (4 * first) s'

theorem goesOn_of_operation {operation : Operation} (pc : s.core.pc = addressOf (4 * first) i)
    (there : operations[i]? = some operation)
    (next : ∀ value core access, operation.execute value s.core = (core, access) →
      Permitted (4 * first) s.log ⟨addressOf (4 * first) i, access⟩ ∧
        Place (4 * first) ⟨core, s.log ++ [⟨addressOf (4 * first) i, access⟩]⟩) :
    GoesOn first values s := by
  obtain ⟨value, step⟩ := step?_of_operation values pc there
  obtain ⟨permitted, place⟩ := next value _ _ rfl
  exact ⟨_, _, step, rfl, permitted, place⟩

/-- A word that accesses nothing, whatever a load would find. -/
theorem goesOn_of_quiet {operation : Operation} {core : Core}
    (pc : s.core.pc = addressOf (4 * first) i) (there : operations[i]? = some operation)
    (executes : ∀ value, operation.execute value s.core = (core, none))
    (unsent : s.log.any (·.isStore) = false)
    (place : Place (4 * first) ⟨core, s.log ++ [⟨addressOf (4 * first) i, none⟩]⟩) :
    GoesOn first values s := by
  obtain ⟨inside, -⟩ := List.getElem?_eq_some_iff.1 there
  refine goesOn_of_operation pc there fun value _ _ executed => ?_
  obtain ⟨rfl, rfl⟩ := Prod.mk.inj ((executes value).symm.trans executed)
  exact ⟨.quiet inside unsent, place⟩

theorem pc_put_of_pc {base : UInt32} (pc : s.core.pc = addressOf base i) (r : Register)
    (value : UInt32) : (s.core.put r value).pc = addressOf base (i + 1) := by
  rw [Core.pc_put, pc, addressOf_succ]

theorem pc_next_of_pc {base : UInt32} (pc : s.core.pc = addressOf base i) :
    s.core.next.pc = addressOf base (i + 1) := by
  rw [Core.pc_next, pc, addressOf_succ]

/-- A branch that is taken goes back two words. -/
theorem pc_goBack_of_pc {base : UInt32} (pc : s.core.pc = addressOf base (i + 2)) :
    ({ s.core with pc := s.core.pc + .ofInt (-8) } : Core).pc = addressOf base i := by
  rw [pc, addressOf_add_two]

theorem length_concat {log : List Executed} (length : log.length = i) (e : Executed) :
    (log ++ [e]).length = i + 1 := by
  rw [List.length_append, length]
  rfl

theorem goesOn_setUp (early : i ≤ 3) (pc : s.core.pc = addressOf (4 * first) i)
    (line : 0 < i → s.core.read 3 = 0x20000000)
    (summary : Summary (4 * first) 0 false false s.log) (length : s.log.length = i) :
    GoesOn first values s := by
  rcases (by omega : i = 0 ∨ i = 1 ∨ i = 2 ∨ i = 3) with rfl | rfl | rfl | rfl
  · refine goesOn_of_quiet pc rfl (fun _ => rfl) summary.stored_eq ?_
    exact .setUp 1 (by decide) (pc_put_of_pc pc _ _) (fun _ => Core.read_put_self _ (by decide) _)
      (summary.quiet (by decide) (by decide)) (length_concat length _)
  · refine goesOn_of_quiet pc rfl (fun _ => rfl) summary.stored_eq ?_
    exact .setUp 2 (by decide) (pc_put_of_pc pc _ _)
      (fun _ => (Core.read_put_of_ne _ (by decide) _).trans (line (by decide)))
      (summary.quiet (by decide) (by decide)) (length_concat length _)
  · refine goesOn_of_quiet pc rfl (fun _ => rfl) summary.stored_eq ?_
    exact .setUp 3 (by decide) (pc_put_of_pc pc _ _)
      (fun _ => (Core.read_put_of_ne _ (by decide) _).trans (line (by decide)))
      (summary.quiet (by decide) (by decide)) (length_concat length _)
  · refine goesOn_of_quiet pc rfl (fun _ => rfl) summary.stored_eq ?_
    exact .add 0 (by decide) (pc_put_of_pc pc _ _)
      ((Core.read_put_of_ne _ (by decide) _).trans (line (by decide)))
      (Core.read_put_self _ (by decide) _) (summary.quiet (by decide) (by decide))
      (length_concat length _)

section Loop

variable {k : Nat} (more : k < 100) (line : s.core.read 3 = 0x20000000)

include more line

theorem goesOn_add (pc : s.core.pc = addressOf (4 * first) 4)
    (counter : s.core.read 5 = .ofNat (100 - k))
    (summary : Summary (4 * first) k false false s.log) (length : s.log.length = 4 + 3 * k) :
    GoesOn first values s := by
  refine goesOn_of_quiet pc rfl (fun _ => rfl) summary.stored_eq ?_
  exact .count k more (pc_put_of_pc pc _ _) ((Core.read_put_of_ne _ (by decide) _).trans line)
    ((Core.read_put_of_ne _ (by decide) _).trans counter) summary.add
    ((length_concat length _).trans (by omega))

theorem goesOn_count (pc : s.core.pc = addressOf (4 * first) 5)
    (counter : s.core.read 5 = .ofNat (100 - k))
    (summary : Summary (4 * first) (k + 1) false false s.log)
    (length : s.log.length = 5 + 3 * k) : GoesOn first values s := by
  have less : s.core.read 5 + .ofInt (-1) = UInt32.ofNat (100 - (k + 1)) := by
    have one : 100 - k = 100 - (k + 1) + 1 := by omega
    rw [counter, one, UInt32.ofNat_add, UInt32.add_assoc]
    exact UInt32.add_zero _
  refine goesOn_of_quiet pc rfl (fun _ => rfl) summary.stored_eq ?_
  exact .repeats k more (pc_put_of_pc pc _ _) ((Core.read_put_of_ne _ (by decide) _).trans line)
    ((Core.read_put_self _ (by decide) _).trans less) (summary.quiet (by decide) (by decide))
    ((length_concat length _).trans (by omega))

/-- The branch goes back to the addition until the counter is zero. -/
theorem goesOn_repeats (pc : s.core.pc = addressOf (4 * first) 6)
    (counter : s.core.read 5 = .ofNat (100 - (k + 1)))
    (summary : Summary (4 * first) (k + 1) false false s.log)
    (length : s.log.length = 6 + 3 * k) : GoesOn first values s := by
  have longer := length_concat length ⟨addressOf (4 * first) 6, none⟩
  by_cases last : k + 1 = 100
  · have zero : s.core.read 5 = 0 := by rw [counter, last]; rfl
    have passed : ¬ BranchTest.ne.holds (s.core.read 5) (s.core.read 0) = true := by
      rw [zero, Core.read_zero]
      decide
    refine goesOn_of_quiet pc rfl (execute_branch_of_not_holds passed) summary.stored_eq ?_
    refine .poll (pc_next_of_pc pc) line (last ▸ summary.quiet (by decide) (by decide))
      fun long => ?_
    rw [longer] at long
    omega
  · have nonzero : s.core.read 5 ≠ 0 := by
      have small : 100 - (k + 1) < 2 ^ 32 := by omega
      rw [counter, ← UInt32.toNat_inj.ne, UInt32.toNat_ofNat_of_lt' small, UInt32.toNat_zero]
      omega
    have taken : BranchTest.ne.holds (s.core.read 5) (s.core.read 0) = true := bne_iff_ne.2 nonzero
    refine goesOn_of_quiet pc rfl (execute_branch_of_holds taken) summary.stored_eq ?_
    exact .add (k + 1) (by omega) (pc_goBack_of_pc pc) ((Core.read_withPc _ _ _).trans line)
      ((Core.read_withPc _ _ _).trans counter) (summary.quiet (by decide) (by decide))
      (longer.trans (by omega))

end Loop

/-- The second bit is the one that the mask leaves. -/
theorem and_two_eq_zero_iff (value : UInt32) : value &&& 2 = 0 ↔ value.toNat.testBit 1 = false := by
  have masked : (value &&& 2).toNat = (value.toNat.testBit 1).toNat * 2 ^ 1 := by
    have two : (2 : UInt32).toNat = 2 ^ 1 := rfl
    rw [UInt32.toNat_and, two, Nat.and_two_pow]
  rw [← UInt32.toNat_inj, masked]
  cases value.toNat.testBit 1 <;> decide

section Line

variable (line : s.core.read 3 = 0x20000000)

include line

/-- The status is loaded only before the line is found ready. -/
theorem goesOn_poll (pc : s.core.pc = addressOf (4 * first) 7)
    (summary : Summary (4 * first) 100 false false s.log) : GoesOn first values s := by
  refine goesOn_of_operation pc rfl fun value core access executed => ?_
  obtain ⟨rfl, rfl⟩ := Prod.mk.inj executed
  refine ⟨⟨⟨7, by decide, rfl⟩, ?_, fun _ _ _ h => (by cases h), fun h => ?_⟩, ?_⟩
  · rintro width address value' ⟨⟩
    exact ⟨rfl, by rw [line]; rfl, summary.additions_eq, summary.ready_eq⟩
  · cases summary.stored_eq.symm.trans h
  · refine .polled (value.toNat.testBit 1) (pc_put_of_pc pc _ _)
      ((Core.read_put_of_ne _ (by decide) _).trans line) ?_
      (summary.access (by decide) (by decide) _ (Bool.false_or _) rfl) ?_
      (since_zero_concat summary.ready_eq)
    · rw [Core.read_put_self _ (by decide)]
      rfl
    · rw [List.any_append, List.any_cons]
      exact Bool.or_true _

variable {ready : Bool} (begun : s.log.any (·.isLoad) = true)

include begun

theorem goesOn_polled (pc : s.core.pc = addressOf (4 * first) 8)
    (status : (s.core.read 6).toNat.testBit 1 = ready)
    (summary : Summary (4 * first) 100 ready false s.log) (since : Since 0 s.log) :
    GoesOn first values s := by
  refine goesOn_of_quiet pc rfl (fun _ => rfl) summary.stored_eq ?_
  refine .masked ready (pc_put_of_pc pc _ _) ((Core.read_put_of_ne _ (by decide) _).trans line) ?_
    (summary.quiet (by decide) (by decide)) (begun_concat begun _) (since.concat rfl)
  rw [Core.read_put_self _ (by decide), ← status]
  exact and_two_eq_zero_iff _

/-- The branch goes back to the load until the line is ready. -/
theorem goesOn_masked (pc : s.core.pc = addressOf (4 * first) 9)
    (status : s.core.read 6 = 0 ↔ ready = false)
    (summary : Summary (4 * first) 100 ready false s.log) (since : Since 1 s.log) :
    GoesOn first values s := by
  cases ready with
  | false =>
    have taken : BranchTest.eq.holds (s.core.read 6) (s.core.read 0) = true :=
      beq_iff_eq.2 (status.2 rfl)
    refine goesOn_of_quiet pc rfl (execute_branch_of_holds taken) summary.stored_eq ?_
    exact .poll (pc_goBack_of_pc pc) ((Core.read_withPc _ _ _).trans line)
      (summary.quiet (by decide) (by decide)) fun _ => begun_concat begun _
  | true =>
    have passed : ¬ BranchTest.eq.holds (s.core.read 6) (s.core.read 0) = true := by
      rw [BranchTest.holds, beq_iff_eq, Core.read_zero, status]
      exact Bool.noConfusion
    refine goesOn_of_quiet pc rfl (execute_branch_of_not_holds passed) summary.stored_eq ?_
    exact .letter (pc_next_of_pc pc) line (summary.quiet (by decide) (by decide))
      (begun_concat begun _) (since.concat rfl)

theorem goesOn_letter (pc : s.core.pc = addressOf (4 * first) 10)
    (summary : Summary (4 * first) 100 true false s.log) (since : Since 2 s.log) :
    GoesOn first values s := by
  refine goesOn_of_quiet pc rfl (fun _ => rfl) summary.stored_eq ?_
  exact .send (pc_put_of_pc pc _ _) ((Core.read_put_of_ne _ (by decide) _).trans line)
    (Core.read_put_self _ (by decide) _) (summary.quiet (by decide) (by decide))
    (begun_concat begun _) (since.concat rfl)

/-- The one store is that of the letter. -/
theorem goesOn_send (pc : s.core.pc = addressOf (4 * first) 11) (value : s.core.read 7 = 68)
    (summary : Summary (4 * first) 100 true false s.log) : GoesOn first values s := by
  refine goesOn_of_operation pc rfl fun _ core access executed => ?_
  obtain ⟨rfl, rfl⟩ := Prod.mk.inj executed
  refine ⟨⟨⟨11, by decide, rfl⟩, fun _ _ _ h => (by cases h), ?_, fun h => ?_⟩, ?_⟩
  · rintro width address value' ⟨⟩
    exact ⟨rfl, by rw [line]; rfl, value, summary.ready_eq, summary.stored_eq⟩
  · cases summary.stored_eq.symm.trans h
  · exact .halt (pc_next_of_pc pc)
      (summary.access (by decide) (by decide) _ rfl rfl) (begun_concat begun _)
      (sent_concat_store rfl rfl)

end Line

/-- The last word is executed again and again. -/
theorem goesOn_halt (pc : s.core.pc = addressOf (4 * first) 12)
    (summary : Summary (4 * first) 100 true true s.log) (begun : s.log.any (·.isLoad) = true)
    (sent : Sent s.log) : GoesOn first values s := by
  refine goesOn_of_operation pc rfl fun _ core access executed => ?_
  obtain ⟨rfl, rfl⟩ := Prod.mk.inj executed
  refine ⟨⟨⟨12, by decide, rfl⟩, fun _ _ _ h => (by cases h), fun _ _ _ h => (by cases h),
    fun _ => rfl⟩, ?_⟩
  exact .halt ((execute_jal_pc s.core 0).trans pc) (summary.quiet (by decide) (by decide))
    (begun_concat begun _) (sent.concat rfl)

/-- From each place an execution goes on to a place. -/
theorem Place.goesOn (place : Place (4 * first) s) : GoesOn first values s := by
  cases place with
  | setUp i early pc line summary length => exact goesOn_setUp early pc line summary length
  | add k more pc line counter summary length =>
    exact goesOn_add more line pc counter summary length
  | count k more pc line counter summary length =>
    exact goesOn_count more line pc counter summary length
  | repeats k more pc line counter summary length =>
    exact goesOn_repeats more line pc counter summary length
  | poll pc line summary _ => exact goesOn_poll line pc summary
  | polled ready pc line status summary begun since =>
    exact goesOn_polled line begun pc status summary since
  | masked ready pc line status summary begun since =>
    exact goesOn_masked line begun pc status summary since
  | letter pc line summary begun since => exact goesOn_letter line begun pc summary since
  | send pc line value summary begun _ => exact goesOn_send line begun pc value summary
  | halt pc summary begun sent => exact goesOn_halt pc summary begun sent

end Step

/-- What holds of every execution that has executed some words. -/
structure Orderly (base : UInt32) (s : Execution) : Prop where
  /-- The program counter is at a word. -/
  inside : ∃ i < matmul.size, s.core.pc = addressOf base i
  permitted : ∀ before e, before ++ [e] <+: s.log → Permitted base before e
  /-- The loop comes to its end. -/
  begun : 304 < s.log.length → s.log.any (·.isLoad) = true
  answered : Answered s.log
  /-- After a store the program counter is at the last word. -/
  halted : s.log.any (·.isStore) = true → s.core.pc = addressOf base 12

section Run

variable {base : UInt32} {s : Execution}

theorem Sent.answered {log : List Executed} (sent : Sent log) : Answered log :=
  fun before e after whole ready _ => sent before e after whole ready

theorem Summary.not_stored {log : List Executed} {n : Nat} {ready : Bool}
    (summary : Summary base n ready false log) {p : Prop} (h : log.any (·.isStore) = true) : p := by
  cases summary.stored_eq.symm.trans h

/-- What a place says of what was executed up to it. -/
theorem Place.orderly (place : Place base s)
    (permitted : ∀ before e, before ++ [e] <+: s.log → Permitted base before e) :
    Orderly base s := by
  cases place with
  | setUp i early pc _ summary length =>
    exact ⟨⟨i, Nat.lt_of_le_of_lt early (by decide), pc⟩, permitted, fun _ => by omega,
      answered_of_not_ready summary.ready_eq, summary.not_stored⟩
  | add k more pc _ _ summary length =>
    exact ⟨⟨4, by decide, pc⟩, permitted, fun _ => by omega,
      answered_of_not_ready summary.ready_eq, summary.not_stored⟩
  | count k more pc _ _ summary length =>
    exact ⟨⟨5, by decide, pc⟩, permitted, fun _ => by omega,
      answered_of_not_ready summary.ready_eq, summary.not_stored⟩
  | repeats k more pc _ _ summary length =>
    exact ⟨⟨6, by decide, pc⟩, permitted, fun _ => by omega,
      answered_of_not_ready summary.ready_eq, summary.not_stored⟩
  | poll pc _ summary begun =>
    exact ⟨⟨7, by decide, pc⟩, permitted, begun, answered_of_not_ready summary.ready_eq,
      summary.not_stored⟩
  | polled ready pc _ _ summary begun since =>
    exact ⟨⟨8, by decide, pc⟩, permitted, fun _ => begun, since.answered (by decide),
      summary.not_stored⟩
  | masked ready pc _ _ summary begun since =>
    exact ⟨⟨9, by decide, pc⟩, permitted, fun _ => begun, since.answered (by decide),
      summary.not_stored⟩
  | letter pc _ summary begun since =>
    exact ⟨⟨10, by decide, pc⟩, permitted, fun _ => begun, since.answered (by decide),
      summary.not_stored⟩
  | send pc _ _ summary begun since =>
    exact ⟨⟨11, by decide, pc⟩, permitted, fun _ => begun, since.answered (by decide),
      summary.not_stored⟩
  | halt pc _ begun sent =>
    exact ⟨⟨12, by decide, pc⟩, permitted, fun _ => begun, sent.answered, fun _ => pc⟩

/-- An execution comes from place to place, and all that it executes is permitted. -/
theorem exists_place (first : UInt32) (registers : Register → UInt32) (values : Nat → UInt32)
    (n : Nat) :
    ∃ s, Execution.run? matmul.words (4 * first) values registers n = some s ∧
      s.log.length = n ∧ Place (4 * first) s ∧
      ∀ before e, before ++ [e] <+: s.log → Permitted (4 * first) before e := by
  induction n with
  | zero =>
    refine ⟨_, rfl, rfl, ?_, fun before e isPrefix => ?_⟩
    · exact .setUp 0 (by decide) (addressOf_zero _).symm (fun h => absurd h (by decide))
        ⟨rfl, rfl, rfl⟩ rfl
    · have := isPrefix.length_le
      simp at this
  | succ n ih =>
    obtain ⟨s, run, length, place, permitted⟩ := ih
    obtain ⟨s', e, step, log, next, place'⟩ : GoesOn first values s := place.goesOn
    refine ⟨s', by rw [Execution.run?, run, Option.bind_some, step], ?_, place', ?_⟩
    · rw [log]
      exact length_concat length e
    · rw [log]
      exact Log.forall_concat permitted next

end Run

/-- **`matmul` adds a hundred times, waits until the line is ready, sends one letter and stops.**
Its words lie from any word's address on, the registers hold anything to start with, and each load
finds any value: for any number of words, a core executes as many, and its program counter is at a
word of the program then. In all that it has executed, every load is of the status word, comes after
exactly a hundred additions, and after no load that found the line ready; the one store is of the
sentinel of a monitor, to the line, after such a load; and after the store the last word alone is
executed, which accesses nothing. The loads do begin, and a line that is found ready is sent to. -/
theorem matmul_runs_to_halt (first : UInt32) (registers : Register → UInt32)
    (values : Nat → UInt32) (n : Nat) :
    ∃ s, Execution.run? matmul.words (4 * first) values registers n = some s ∧
      s.log.length = n ∧ Orderly (4 * first) s := by
  obtain ⟨s, run, length, place, permitted⟩ := exists_place first registers values n
  exact ⟨s, run, length, place.orderly permitted⟩

end Benchmark

end CoreTrial
