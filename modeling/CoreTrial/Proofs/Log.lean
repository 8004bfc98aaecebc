import Mathlib.Data.List.Infix

/-!
# Logs that grow

A log lists what has happened, oldest first, and grows by one entry at a time. What is said of an
entry together with what stands before and after it in a log is carried to the longer log by the
entry that is new, and so is what is read off the entries of some kind.
-/

set_option autoImplicit false

namespace CoreTrial.Log

variable {α : Type} {log : List α} {last : α}

/-- An entry of a longer log is the last one, or an entry of the log. -/
theorem eq_concat_cases {before after : List α} {e : α}
    (h : before ++ e :: after = log ++ [last]) :
    (after = [] ∧ before = log ∧ e = last) ∨
      ∃ rest, after = rest ++ [last] ∧ before ++ e :: rest = log := by
  rcases after.eq_nil_or_concat with rfl | ⟨rest, final, rfl⟩
  · obtain ⟨rfl, same⟩ := List.append_inj' h rfl
    exact .inl ⟨rfl, rfl, List.singleton_inj.1 same⟩
  · rw [List.concat_eq_append, ← List.cons_append, ← List.append_assoc] at h
    obtain ⟨whole, same⟩ := List.append_inj' h rfl
    exact .inr ⟨rest, by rw [List.concat_eq_append, same], whole⟩

/-- What holds of each entry by what stands before it holds in a longer log if it does of the
last one. -/
theorem forall_concat {P : List α → α → Prop} (h : ∀ before e, before ++ [e] <+: log → P before e)
    (next : P log last) : ∀ before e, before ++ [e] <+: log ++ [last] → P before e := by
  rintro before e ⟨after, whole⟩
  rw [List.append_assoc, List.singleton_append] at whole
  rcases eq_concat_cases whole with ⟨-, rfl, rfl⟩ | ⟨rest, -, inside⟩
  · exact next
  · exact h before e ⟨rest, by rw [List.append_assoc, List.singleton_append, inside]⟩

variable {β : Type}

theorem filterMap_snoc (f : α → Option β) (log : List α) (x : α) :
    (log ++ [x]).filterMap f = log.filterMap f ++ (f x).toList := by
  rw [List.filterMap_append]
  cases y : f x with
  | none =>
    rw [List.filterMap_cons_none y]
    rfl
  | some y' =>
    rw [List.filterMap_cons_some y]
    rfl

/-- The last of some entries is the new one, if it is one of them. -/
theorem getLast?_filterMap_snoc (f : α → Option β) (log : List α) (x : α) :
    ((log ++ [x]).filterMap f).getLast? = (f x).or (log.filterMap f).getLast? := by
  rw [filterMap_snoc, List.getLast?_append]
  cases f x <;> rfl

/-- One entry at most is looked for, so it is found in any order. -/
theorem find?_of_perm {p : α → Bool} {log' : List α} (perm : log'.Perm log)
    (unique : ∀ x ∈ log, ∀ y ∈ log, p x = true → p y = true → x = y) :
    log'.find? p = log.find? p := by
  cases found : log.find? p with
  | none =>
    refine List.find?_eq_none.2 fun x mem => ?_
    exact List.find?_eq_none.1 found x (perm.mem_iff.1 mem)
  | some x =>
    have mem := List.mem_of_find?_eq_some found
    have holds := List.find?_some found
    cases found' : log'.find? p with
    | none => exact absurd holds (List.find?_eq_none.1 found' x (perm.mem_iff.2 mem))
    | some y =>
      have mem' := perm.mem_iff.1 (List.mem_of_find?_eq_some found')
      rw [unique y mem' x mem (List.find?_some found') holds]

end CoreTrial.Log
