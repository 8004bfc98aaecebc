/-!
# Maps in the order of their keys

Entries stand in strictly increasing order of their keys, so a map has one list of entries. Text
is ordered by code points, which is the order of its UTF-8 bytes.
-/

set_option autoImplicit false

namespace CoreTrial

/-- A finite map from text, its entries in strictly increasing order of the keys. -/
structure SortedMap (α : Type) where
  entries : List (String × α)
  sorted : entries.Pairwise fun a b => a.1 < b.1

namespace SortedMap

variable {α : Type}

/-- The map without entries. -/
def empty : SortedMap α := ⟨[], .nil⟩

/-- Puts an entry into an ordered list, in place of one with the same key. -/
def place (key : String) (value : α) : List (String × α) → List (String × α)
  | [] => [(key, value)]
  | e :: rest =>
    if key < e.1 then (key, value) :: e :: rest
    else if key = e.1 then (key, value) :: rest
    else e :: place key value rest

theorem mem_place {key : String} {value : α} {l : List (String × α)} {e : String × α}
    (h : e ∈ place key value l) : e = (key, value) ∨ e ∈ l := by
  induction l with
  | nil => simpa [place] using h
  | cons f l ih =>
    simp only [place] at h
    split at h
    · simpa using h
    · split at h
      · rcases List.mem_cons.1 h with h | h
        · exact .inl h
        · exact .inr (List.mem_cons_of_mem _ h)
      · rcases List.mem_cons.1 h with h | h
        · exact .inr (h ▸ List.mem_cons_self)
        · exact (ih h).imp_right (List.mem_cons_of_mem _)

theorem sorted_place {key : String} {value : α} {l : List (String × α)}
    (h : l.Pairwise fun a b => a.1 < b.1) :
    (place key value l).Pairwise fun a b => a.1 < b.1 := by
  induction l with
  | nil => simp [place]
  | cons f l ih =>
    obtain ⟨hf, hl⟩ := List.pairwise_cons.1 h
    simp only [place]
    split
    · rename_i hlt
      refine List.pairwise_cons.2 ⟨fun e he => ?_, h⟩
      rcases List.mem_cons.1 he with rfl | he
      · exact hlt
      · exact String.lt_trans hlt (hf e he)
    · split
      · rename_i heq
        exact List.pairwise_cons.2 ⟨fun e he => heq ▸ hf e he, hl⟩
      · rename_i hnlt hne
        refine List.pairwise_cons.2 ⟨fun e he => ?_, ih hl⟩
        rcases mem_place he with rfl | he
        · exact Std.lt_of_le_of_ne (String.not_lt.1 hnlt) fun h => hne h.symm
        · exact hf e he

/-- The map with `key` taken to `value`. -/
def insert (m : SortedMap α) (key : String) (value : α) : SortedMap α :=
  ⟨place key value m.entries, sorted_place m.sorted⟩

/-- The value of a key. -/
def find? (m : SortedMap α) (key : String) : Option α :=
  (m.entries.find? fun e => e.1 == key).map (·.2)

/-- The map with `key` taken to `value`, unless it has a value already. -/
def insertNew (m : SortedMap α) (key : String) (value : α) : SortedMap α :=
  if (m.find? key).isSome then m else m.insert key value

/-- The map of a list of entries, of which the last of a key counts. -/
def ofList (l : List (String × α)) : SortedMap α :=
  l.foldl (fun m e => m.insert e.1 e.2) empty

/-- The map of the entries whose value is kept. -/
def filterMap {β : Type} (f : α → Option β) (m : SortedMap α) : SortedMap β where
  entries := m.entries.filterMap fun e => (f e.2).map fun b => (e.1, b)
  sorted := by
    rw [List.pairwise_filterMap]
    refine m.sorted.imp ?_
    intro a b hab c hc d hd
    simp only [Option.map_eq_some_iff] at hc hd
    obtain ⟨_, _, rfl⟩ := hc
    obtain ⟨_, _, rfl⟩ := hd
    exact hab

/-- The map with each value replaced. -/
def map {β : Type} (f : α → β) (m : SortedMap α) : SortedMap β where
  entries := m.entries.map fun e => (e.1, f e.2)
  sorted := List.pairwise_map.2 m.sorted

theorem ext {m n : SortedMap α} (h : m.entries = n.entries) : m = n := by
  cases m; cases n; simp_all

/-- A map of which each value is restored is restored. -/
theorem map_map_of_inverse {β : Type} {f : α → β} {g : β → α} {m : SortedMap α}
    (back : ∀ e ∈ m.entries, g (f e.2) = e.2) : (m.map f).map g = m := by
  have same : ∀ e ∈ m.entries, ((fun e => (e.1, g e.2)) ∘ fun e => (e.1, f e.2)) e = id e :=
    fun e mem => Prod.ext rfl (back e mem)
  refine ext (List.map_map.trans ?_)
  rw [List.map_congr_left same, List.map_id]

end SortedMap

end CoreTrial
