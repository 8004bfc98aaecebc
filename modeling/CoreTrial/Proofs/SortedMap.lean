import CoreTrial.SortedMap

/-!
# What a map holds after it has been changed

A map is known by what it holds of each key. Putting an entry into it changes one key, whether the
list of its entries is in order or not; dropping values needs that a key has only one entry.
-/

set_option autoImplicit false

namespace CoreTrial.SortedMap

variable {α β γ : Type}

theorem find?_place (key k : String) (value : α) (l : List (String × α)) :
    ((place key value l).find? fun e => e.1 == k).map (·.2) =
      if key = k then some value else (l.find? fun e => e.1 == k).map (·.2) := by
  induction l with
  | nil =>
    by_cases same : key = k
    · simp [place, same]
    · simp [place, same]
  | cons e l ih =>
    rw [place]
    split
    · by_cases same : key = k
      · simp [same]
      · simp [same]
    · split
      · rename_i equal
        by_cases same : key = k
        · simp [same]
        · have other : e.1 ≠ k := equal ▸ same
          simp [same, other]
      · rename_i different
        by_cases here : e.1 = k
        · have other : key ≠ k := here ▸ different
          simp [here, other]
        · rw [List.find?_cons_of_neg (by simpa using here), ih,
            List.find?_cons_of_neg (by simpa using here)]

/-- An insertion changes what the map holds of its key only. -/
theorem find?_insert (m : SortedMap α) (key k : String) (value : α) :
    (m.insert key value).find? k = if key = k then some value else m.find? k :=
  find?_place key k value m.entries

/-- A value that the map has already stays. -/
theorem find?_insertNew (m : SortedMap α) (key k : String) (value : α) :
    (m.insertNew key value).find? k = (m.find? k).or (if key = k then some value else none) := by
  unfold insertNew
  split
  · rename_i held
    by_cases same : key = k
    · subst same
      obtain ⟨v, hv⟩ := Option.isSome_iff_exists.1 held
      rw [hv, Option.some_or]
    · rw [if_neg same, Option.or_none]
  · rename_i free
    rw [find?_insert]
    by_cases same : key = k
    · subst same
      rw [if_pos rfl, if_pos rfl, Option.not_isSome_iff_eq_none.1 free, Option.none_or]
    · rw [if_neg same, if_neg same, Option.or_none]

/-- Of entries that are put into a map one by one, the first one of a key stays. -/
theorem find?_foldl_insertNew (key : γ → String) (value : γ → α) (l : List γ) (m : SortedMap α)
    (k : String) :
    (l.foldl (fun m e => m.insertNew (key e) (value e)) m).find? k =
      (m.find? k).or ((l.find? fun e => key e == k).map value) := by
  induction l generalizing m with
  | nil => exact Option.or_none.symm
  | cons e l ih =>
    rw [List.foldl_cons, ih, find?_insertNew, Option.or_assoc]
    by_cases same : key e = k
    · simp [same]
    · simp [same]

theorem find?_filterMap_entries (f : α → Option β) (k : String) {l : List (String × α)}
    (sorted : l.Pairwise fun a b => a.1 < b.1) :
    ((l.filterMap fun e => (f e.2).map fun b => (e.1, b)).find? fun e => e.1 == k).map (·.2) =
      ((l.find? fun e => e.1 == k).map (·.2)).bind f := by
  induction l with
  | nil => rfl
  | cons e l ih =>
    obtain ⟨later, sorted⟩ := List.pairwise_cons.1 sorted
    have ih := ih sorted
    by_cases here : e.1 = k
    · have last : (l.find? fun e => e.1 == k) = none := by
        rw [List.find?_eq_none]
        intro d mem same
        have lt := later d mem
        rw [here, ← eq_of_beq same] at lt
        exact String.lt_irrefl _ lt
      rw [last] at ih
      cases value : f e.2 with
      | none =>
        rw [List.filterMap_cons_none (by rw [value]; rfl), ih,
          List.find?_cons_of_pos (by simpa using here)]
        exact value.symm
      | some b => simp [value, here]
    · rw [List.find?_cons_of_neg (by simpa using here), ← ih]
      cases value : f e.2 with
      | none => rw [List.filterMap_cons_none (by rw [value]; rfl)]
      | some b => simp [value, here]

/-- A key whose value is dropped has none, as no other entry has this key. -/
theorem find?_filterMap (f : α → Option β) (m : SortedMap α) (k : String) :
    (m.filterMap f).find? k = (m.find? k).bind f :=
  find?_filterMap_entries f k m.sorted

end CoreTrial.SortedMap
