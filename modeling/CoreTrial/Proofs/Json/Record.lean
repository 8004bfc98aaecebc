import CoreTrial.Json.Record
import Mathlib.Algebra.Group.Nat.Defs

/-!
# Records are read back

A record that is written as an object of its fields, no two of the same name, is read back slot by
slot. The lemmas about values say that each kind of value is read as it was written.
-/

set_option autoImplicit false

namespace CoreTrial

namespace SortedMap

variable {α : Type}

/-- An entry whose key comes after all others is placed at the end. -/
theorem place_of_last {key : String} {value : α} {l : List (String × α)}
    (last : ∀ e ∈ l, e.1 < key) : place key value l = l ++ [(key, value)] := by
  induction l with
  | nil => rfl
  | cons e l ih =>
    have before := last e List.mem_cons_self
    have not_lt : ¬ key < e.1 := fun after => String.lt_irrefl _ (String.lt_trans before after)
    have ne : key ≠ e.1 := by
      rintro rfl
      exact String.lt_irrefl _ before
    rw [place, if_neg not_lt, if_neg ne, ih fun d mem => last d (List.mem_cons_of_mem e mem),
      List.cons_append]

/-- Entries in order are put into a map one after the other. -/
theorem entries_foldl_insert {l : List (String × α)} {m : SortedMap α}
    (sorted : (m.entries ++ l).Pairwise fun a b => a.1 < b.1) :
    (l.foldl (fun m e => m.insert e.1 e.2) m).entries = m.entries ++ l := by
  induction l generalizing m with
  | nil => rw [List.foldl_nil, List.append_nil]
  | cons e l ih =>
    have placed : (m.insert e.1 e.2).entries = m.entries ++ [e] :=
      place_of_last fun d mem => (List.pairwise_append.1 sorted).2.2 d mem e List.mem_cons_self
    have whole : m.entries ++ e :: l = (m.insert e.1 e.2).entries ++ l := by
      rw [placed, List.append_assoc]
      rfl
    rw [List.foldl_cons, whole]
    exact ih (whole ▸ sorted)

/-- The map of a map's entries is the map. -/
theorem ofList_entries (m : SortedMap α) : ofList m.entries = m :=
  ext (entries_foldl_insert m.sorted)

end SortedMap

namespace Json

variable {α : Type}

/-- The slot of a field that an object has once. -/
theorem slotOf_of_mem {fields : List (String × Json)} {f : String × Json}
    (distinct : (fields.map Prod.fst).Nodup) (mem : f ∈ fields) :
    slotOf fields f.1 = some (.given f.2) := by
  have only : fields.filter (fun e => e.1 == f.1) = [f] := by
    induction fields with
    | nil => cases mem
    | cons e fields ih =>
      obtain ⟨fresh, distinct⟩ := List.nodup_cons.1 distinct
      rcases List.mem_cons.1 mem with rfl | mem
      · have rest : fields.filter (fun e => e.1 == f.1) = [] := by
          refine List.filter_eq_nil_iff.2 fun d hd same => fresh ?_
          rw [← eq_of_beq same]
          exact List.mem_map_of_mem hd
        rw [List.filter_cons_of_pos (by simp), rest]
      · have other : ¬ (e.1 == f.1) = true := fun same =>
          fresh (eq_of_beq same ▸ List.mem_map_of_mem mem)
        rw [List.filter_cons_of_neg (by simpa using other)]
        exact ih distinct mem
  rw [slotOf, only]

theorem mapM_slotOf {fields : List (String × Json)} (distinct : (fields.map Prod.fst).Nodup)
    {part : List (String × Json)} (sub : ∀ f ∈ part, f ∈ fields) :
    (part.map Prod.fst).mapM (slotOf fields) = some (part.map fun f => .given f.2) := by
  induction part with
  | nil => rfl
  | cons f part ih =>
    have first := slotOf_of_mem distinct (sub f List.mem_cons_self)
    have rest := ih fun g mem => sub g (List.mem_cons_of_mem f mem)
    rw [List.map_cons, List.mapM_cons, first, rest]
    rfl

/-- The slots of a record that is written as an object hold its fields. -/
theorem slots?_object {fields : List (String × Json)} (distinct : (fields.map Prod.fst).Nodup) :
    slots? (fields.map Prod.fst) (.object fields) = some (fields.map fun f => .given f.2) :=
  mapM_slotOf distinct fun _ mem => mem

/-- Values that are read back one by one are read back as a list. -/
theorem mapM_map {β γ : Type} {read : β → Option γ} {write : α → β} (kept : α → γ) {l : List α}
    (h : ∀ a ∈ l, read (write a) = some (kept a)) :
    (l.map write).mapM read = some (l.map kept) := by
  induction l with
  | nil => rfl
  | cons a l ih =>
    have rest := ih fun b mem => h b (List.mem_cons_of_mem a mem)
    rw [List.map_cons, List.mapM_cons, h a List.mem_cons_self, rest]
    rfl

theorem list?_array {read : Json → Option α} {write : α → Json} {l : List α}
    (h : ∀ a ∈ l, read (write a) = some a) : list? read (.array (l.map write)) = some l := by
  have back := mapM_map id h
  rwa [List.map_id] at back

theorem map?_ofMap {read : Json → Option α} {write : α → Json} {m : SortedMap α}
    (h : ∀ a, read (write a) = some a) : map? read (ofMap write m) = some m := by
  have back : (m.entries.map fun e => (e.1, write e.2)).mapM
      (fun f => (read f.2).map fun a => (f.1, a)) = some (m.entries.map id) :=
    mapM_map id fun e _ => by rw [h]; rfl
  unfold map? ofMap
  dsimp only
  rw [back, List.map_id, Option.bind_eq_bind, Option.bind_some, SortedMap.ofList_entries]
  rfl

/-- A value or nothing, where no value is written as null. -/
theorem optional_ofOption {β : Type} {read : Json → Option β} (write : α → Json) (kept : α → β)
    (o : Option α) (filled : ∀ a, write a ≠ .null)
    (h : ∀ a, o = some a → read (write a) = some (kept a)) :
    (Slot.given (ofOption write o)).optional read = some (o.map kept) := by
  cases o with
  | none => rfl
  | some a =>
    have back := h a rfl
    simp only [ofOption, Option.map_some]
    unfold Slot.optional
    split
    · rename_i null
      exact absurd (Slot.given.inj null) (filled a)
    · rename_i v given
      cases given
      rw [back]
      rfl
    · rename_i absent
      cases absent
    · rename_i beyond
      cases beyond

theorem optional_ofOption_self {read : Json → Option α} (write : α → Json) (o : Option α)
    (filled : ∀ a, write a ≠ .null) (h : ∀ a, o = some a → read (write a) = some a) :
    (Slot.given (ofOption write o)).optional read = some o := by
  have back := optional_ofOption write id o filled h
  rwa [Option.map_id] at back

theorem word64?_nat {n : Nat} (small : n < 2 ^ 64) : word64? (.nat n) = some n := by
  have range : (0 : Int) ≤ n ∧ (n : Int) ≤ (UInt64.size - 1 : Nat) := by
    have size : UInt64.size = 2 ^ 64 := rfl
    omega
  exact if_pos range

theorem word32?_nat (w : UInt32) : word32? (.nat w.toNat) = some w := by
  have small := w.toNat_lt
  have range : (0 : Int) ≤ w.toNat ∧ (w.toNat : Int) ≤ (UInt32.size - 1 : Nat) := by
    have size : UInt32.size = 2 ^ 32 := rfl
    omega
  have read : natUpTo? (UInt32.size - 1) (.nat w.toNat) = some w.toNat := if_pos range
  rw [word32?, read, Option.map_some, UInt32.ofNat_toNat]

theorem signed32?_int (n : Int32) : signed32? (.int n.toInt) = some n := by
  have low := n.le_toInt
  have high := n.toInt_lt
  have range : (-2147483648 : Int) ≤ n.toInt ∧ n.toInt ≤ 2147483647 := by omega
  rw [signed32?, if_pos range, Int32.ofInt_toInt]

end Json

end CoreTrial
