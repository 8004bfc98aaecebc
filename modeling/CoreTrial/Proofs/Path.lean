import CoreTrial.Path

/-!
# The entries of a folder

An entry of a folder has its own name for a file name, whatever the path of the folder is.
-/

set_option autoImplicit false

namespace CoreTrial

namespace Text

/-- A mark ends a piece, whatever stands before and after it. -/
theorem splitFrom_append_mark (mark : Char) (piece s t : List Char) :
    splitFrom mark piece (s ++ mark :: t) = splitFrom mark piece s ++ splitOn mark t := by
  induction s generalizing piece with
  | nil =>
    change (if mark = mark then piece.reverse :: splitFrom mark [] t else _) = _
    rw [if_pos rfl]
    rfl
  | cons c s ih =>
    rw [List.cons_append, splitFrom, splitFrom]
    split
    · rw [ih, List.cons_append]
    · exact ih (c :: piece)

theorem splitFrom_of_not_mem {mark : Char} {s : List Char} (plain : mark ∉ s)
    (piece : List Char) : splitFrom mark piece s = [piece.reverse ++ s] := by
  induction s generalizing piece with
  | nil => rw [splitFrom, List.append_nil]
  | cons c s ih =>
    have other : c ≠ mark := fun same => plain (same ▸ List.mem_cons_self)
    rw [splitFrom, if_neg other, ih fun mem => plain (List.mem_cons_of_mem _ mem)]
    simp

end Text

namespace Path

theorem same_comm (p q : Path) : p.same q = q.same p := BEq.comm

instance : Std.Symm fun p q : Path => p.same q = false :=
  ⟨fun p q apart => (same_comm q p).trans apart⟩

variable {name : String}

/-- A name stands at the end of the path of an entry, behind a slash if anything is before it. -/
theorem text_child (p : Path) (plain : '/' ∉ name.toList) :
    (p.child name).text.toList = name.toList ∨
      ∃ s, (p.child name).text.toList = s ++ '/' :: name.toList := by
  unfold child join
  have relative : (⟨name⟩ : Path).isAbsolute = false := by
    refine Bool.eq_false_iff.2 fun absolute => plain ?_
    exact List.mem_of_head? (beq_iff_eq.1 absolute)
  rw [relative, Bool.false_or]
  split
  · exact .inl rfl
  · split
    · rename_i slash
      obtain ⟨s, whole⟩ := List.getLast?_eq_some_iff.1 slash
      exact .inr ⟨s, by simp [whole]⟩
    · exact .inr ⟨p.text.toList, by simp⟩

/-- The name of an entry is its last piece. -/
theorem pieces_child (p : Path) (filled : name ≠ "") (plain : '/' ∉ name.toList) :
    ∃ before, (p.child name).pieces = before ++ [name] := by
  have single : Text.splitOn '/' name.toList = [name.toList] :=
    Text.splitFrom_of_not_mem plain []
  have kept : [name.toList].filter (!·.isEmpty) = [name.toList] := by simpa using filled
  unfold pieces
  rcases p.text_child plain with whole | ⟨s, whole⟩
  · refine ⟨[], ?_⟩
    rw [whole, single, kept]
    simp
  · refine ⟨((Text.splitOn '/' s).filter (!·.isEmpty)).map String.ofList, ?_⟩
    have split : Text.splitOn '/' (s ++ '/' :: name.toList) =
        Text.splitOn '/' s ++ Text.splitOn '/' name.toList :=
      Text.splitFrom_append_mark '/' [] s name.toList
    rw [whole, split, single, List.filter_append, kept]
    simp

/-- An entry of a folder has its name for a file name. -/
theorem fileName?_child (p : Path) (filled : name ≠ "") (plain : '/' ∉ name.toList)
    (here : name ≠ ".") (up : name ≠ "..") : (p.child name).fileName? = some name := by
  obtain ⟨before, pieces⟩ := p.pieces_child filled plain
  have named : component? name = some (.name name) := by
    rw [component?, if_neg here, if_neg up]
  have last : (p.child name).components.getLast? = some (.name name) := by
    unfold components
    rw [pieces, List.filterMap_append, List.filterMap_cons_some named, List.filterMap_nil]
    simp [← List.append_assoc]
  rw [fileName?, last]

end Path

end CoreTrial
