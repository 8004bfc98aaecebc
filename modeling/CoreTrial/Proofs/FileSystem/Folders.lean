import CoreTrial.Proofs.FileSystem.Keeps

/-!
# Folders that are there

A folder is created component by component, with the folders it stands in. Once that has succeeded
the folder is there, and to create it again changes nothing.
-/

set_option autoImplicit false

namespace CoreTrial

namespace Text

/-- A piece between marks holds no mark. -/
theorem not_mem_of_mem_splitFrom {mark : Char} {s piece q : List Char}
    (h : q ∈ splitFrom mark piece s) (plain : mark ∉ piece) : mark ∉ q := by
  induction s generalizing piece with
  | nil =>
    rw [splitFrom, List.mem_singleton] at h
    rw [h, List.mem_reverse]
    exact plain
  | cons c s ih =>
    rw [splitFrom] at h
    split at h
    · rcases List.mem_cons.1 h with rfl | h
      · rwa [List.mem_reverse]
      · exact ih h List.not_mem_nil
    · rename_i other
      refine ih h fun mem => ?_
      rcases List.mem_cons.1 mem with rfl | mem
      · exact other rfl
      · exact plain mem

end Text

namespace Path

/-- The text of a component. -/
def Component.text : Component → String
  | .root => "/"
  | .here => "."
  | .up => ".."
  | .name s => s

/-- A name that can stand in a folder. -/
def Component.Plain (c : Component) : Prop :=
  ∀ s, c = .name s → s ≠ "" ∧ '/' ∉ s.toList

theorem plain_of_mem_pieces {p : Path} {s : String} (h : s ∈ p.pieces) :
    s ≠ "" ∧ '/' ∉ s.toList := by
  unfold pieces at h
  obtain ⟨piece, mem, rfl⟩ := List.mem_map.1 h
  obtain ⟨mem, filled⟩ := List.mem_filter.1 mem
  rw [String.toList_ofList]
  refine ⟨?_, Text.not_mem_of_mem_splitFrom mem List.not_mem_nil⟩
  intro empty
  have none : piece = [] := by simpa using congrArg String.toList empty
  simp [none] at filled

theorem plain_of_mem_components {p : Path} {c : Component} (h : c ∈ p.components) : c.Plain := by
  rintro s rfl
  unfold components at h
  rcases List.mem_append.1 h with start | named
  · split at start
    · simp at start
    · split at start <;> simp at start
  · obtain ⟨piece, mem, same⟩ := List.mem_filterMap.1 named
    unfold component? at same
    split at same
    · cases same
    · split at same
      · cases same
      · cases same
        exact plain_of_mem_pieces mem

/-- A path that is just a slash, or that does not end in one. -/
def Bare (p : Path) : Prop :=
  p.text = "/" ∨ p.text ≠ "" ∧ p.text.toList.getLast? ≠ some '/'

/-- A path that ends in a text without slashes. -/
theorem bare_of_append {s t : String} (filled : t ≠ "") (plain : '/' ∉ t.toList) :
    Bare ⟨s ++ t⟩ := by
  have filled' : t.toList ≠ [] := by simpa using filled
  have last : (s ++ t).toList.getLast? = t.toList.getLast? := by
    rw [String.toList_append, List.getLast?_append, List.getLast?_eq_some_getLast filled']
    rfl
  refine .inr ⟨by simp [filled], fun ends => plain ?_⟩
  rw [last] at ends
  exact List.mem_of_getLast? ends

theorem bare_join {p : Path} {t : String} (filled : t ≠ "") (plain : '/' ∉ t.toList) :
    Bare (p.join ⟨t⟩) := by
  unfold join
  split
  · have whole := bare_of_append (s := "") filled plain
    rwa [String.empty_append] at whole
  · split
    · exact bare_of_append filled plain
    · exact bare_of_append filled plain

end Path

namespace FileSystem

open CoreTrial.Path (Component)

variable {fs fs' : FileSystem} {p : Path} {q : Place} {n : Node} {c : Component}
  {cs : List Component}

theorem ofComponents_concat (cs : List Component) (c : Component) :
    ofComponents (cs ++ [c]) = (ofComponents cs).join ⟨c.text⟩ := by
  unfold ofComponents
  rw [List.foldl_append]
  cases c <;> rfl

theorem bare_ofComponents (cs : List Component) (plain : c.Plain) :
    (ofComponents (cs ++ [c])).Bare := by
  rw [ofComponents_concat]
  cases c with
  | root => exact .inl rfl
  | here => exact Path.bare_join (by decide) (by decide)
  | up => exact Path.bare_join (by decide) (by decide)
  | name s => exact Path.bare_join (plain s rfl).1 (plain s rfl).2

/-- A bare path is followed as it is to make a folder. -/
theorem makeFolder_of_bare (bare : p.Bare) :
    fs.makeFolder p = match fs.target? false p with
      | .ok (.node _ _) => .error .exists
      | .ok (.free place) => .ok (fs.put place (.folder newFolderMode))
      | .error e => .error e := by
  obtain ⟨text⟩ := p
  unfold makeFolder
  rcases bare with slash | ⟨filled, last⟩
  · cases slash
    rfl
  · have whole : text.toList.reverse.dropWhile (· == '/') = text.toList.reverse := by
      rw [← List.head?_reverse] at last
      cases backwards : text.toList.reverse with
      | nil => rfl
      | cons c cs =>
        rw [backwards] at last
        exact List.dropWhile_cons_of_neg (by simpa using last)
    simp only [whole, List.reverse_reverse, String.ofList_toList]
    rewrite [if_neg (by simpa using filled)]
    rfl

/-- A path that leads somewhere does so up to a link at its end, too. -/
theorem exists_walk_false {links : Nat} {at_ : Place} {rest : List String}
    (ends : fs.walk true links at_ rest = .ok (.node q n)) :
    ∃ q' n', fs.walk false links at_ rest = .ok (.node q' n') := by
  fun_induction walk fs true links at_ rest with
  | case1 links at_ m found => exact ⟨at_, m, by rw [walk, found]⟩
  | case3 links at_ rest mode folder ih =>
    rw [walk_here folder]
    exact ih ends
  | case4 links at_ rest mode folder _ ih =>
    rw [walk_up folder]
    exact ih ends
  | case7 links at_ piece rest mode folder here up target found last => simp at last
  | case9 at_ piece rest mode folder here up target found on links ih =>
    cases rest with
    | nil => exact ⟨_, _, walk_last folder here up found⟩
    | cons next rest =>
      rw [walk_follow folder here up found rfl]
      exact ih ends
  | case10 links at_ piece rest mode folder here up m away found ih =>
    rw [walk_enter folder here up found fun target e => away target e]
    exact ih ends
  | _ => cases ends

theorem exists_folder_of_isFolder (folder : fs.isFolder p = true) :
    ∃ q mode, fs.node? p = .ok (q, .folder mode) := by
  unfold isFolder at folder
  split at folder
  · rename_i q mode leads
    exact ⟨q, mode, leads⟩
  · cases folder

/-- A folder that is there is not created. -/
theorem makeFolder_of_isFolder (bare : p.Bare) (folder : fs.isFolder p = true) :
    fs.makeFolder p = .error .exists := by
  obtain ⟨q, mode, leads⟩ := exists_folder_of_isFolder folder
  have ends := target?_of_node? leads
  have follows := target?_of_ok ends
  rw [follows] at ends
  obtain ⟨q', n', last⟩ := exists_walk_false ends
  rw [makeFolder_of_bare bare, follows, last]

/-- A folder that is created is there, and nothing else changes. -/
theorem makeFolder_eq_ok (bare : p.Bare) (made : fs.makeFolder p = .ok fs') :
    fs.Grows fs' ∧ fs'.isFolder p = true := by
  rw [makeFolder_of_bare bare] at made
  split at made
  · cases made
  · rename_i place ends
    cases made
    have follows := target?_of_ok ends
    rw [follows] at ends
    let new : Node := .folder newFolderMode
    have created :
        (fs.put place new).walk false linkLimit (fs.start p).1 (fs.start p).2 =
          .ok (.node place new) :=
      walk_put_of_free ends (fun a other => get?_put_of_ne fs new other)
        (get?_put_self fs place new) nofun
    have no_link (target : Path) : (Target.node place new).node? ≠ some (.link target) := by
      simp [new, Target.node?]
    have leads : (fs.put place new).target? true p = .ok (.node place new) :=
      (follows (fs.put place new) true).trans (walk_true_of_walk_false created no_link)
    refine ⟨.put_of_free (get?_of_walk ends) new fs.next, ?_⟩
    rw [isFolder, node?, leads]
  · cases made

theorem makeFoldersFrom_of_isFolder (bare : (ofComponents (c :: cs).reverse).Bare)
    (folder : fs.isFolder (ofComponents (c :: cs).reverse) = true) :
    fs.makeFoldersFrom (c :: cs) = .ok fs := by
  unfold makeFoldersFrom
  dsimp only
  rw [makeFolder_of_isFolder bare folder]
  exact if_pos folder

/-- Folders that are created are there, and all that was there has stayed. -/
theorem makeFoldersFrom_eq_ok (plain : ∀ c ∈ cs, c.Plain) (made : fs.makeFoldersFrom cs = .ok fs') :
    fs.Grows fs' ∧ (cs = [] ∨ fs'.isFolder (ofComponents cs.reverse) = true) := by
  induction cs generalizing fs' with
  | nil =>
    cases made
    exact ⟨.refl fs, .inl rfl⟩
  | cons c cs ih =>
    have bare : (ofComponents (c :: cs).reverse).Bare := by
      rw [List.reverse_cons]
      exact bare_ofComponents cs.reverse (plain c List.mem_cons_self)
    unfold makeFoldersFrom at made
    dsimp only at made
    split at made
    · rename_i first
      cases made
      obtain ⟨grows, folder⟩ := makeFolder_eq_ok bare first
      exact ⟨grows, .inr folder⟩
    -- The folders that it stands in are created before it.
    · split at made
      · cases made
      · rename_i fs₁ above
        obtain ⟨grows, -⟩ := ih (fun c mem => plain c (List.mem_cons_of_mem _ mem)) above
        split at made
        · rename_i second
          cases made
          obtain ⟨grows', folder⟩ := makeFolder_eq_ok bare second
          exact ⟨grows.trans grows', .inr folder⟩
        · split at made
          · rename_i folder
            cases made
            exact ⟨grows, .inr folder⟩
          · cases made
    · split at made
      · rename_i folder
        cases made
        exact ⟨.refl fs, .inr folder⟩
      · cases made

/-- The path by which a folder is created, with a slash between any two components. -/
def folderPath (p : Path) : Path :=
  ofComponents p.components

theorem makeFolders_eq_ok (made : fs.makeFolders p = .ok fs') :
    fs.Grows fs' ∧ (p.components = [] ∨ fs'.isFolder (folderPath p) = true) := by
  unfold makeFolders at made
  split at made
  · cases made
  · have plain (c : Component) (mem : c ∈ p.components.reverse) : c.Plain :=
      Path.plain_of_mem_components (List.mem_reverse.1 mem)
    have folder := makeFoldersFrom_eq_ok plain made
    rwa [List.reverse_eq_nil_iff, List.reverse_reverse] at folder

/-- A folder that is there does not have to be created. -/
theorem makeFolders_of_isFolder (text : ¬ (p.text.toList.any fun c => c.toNat == 0) = true)
    (folder : fs.isFolder (folderPath p) = true) : fs.makeFolders p = .ok fs := by
  have plain (c : Component) (mem : c ∈ p.components.reverse) : c.Plain :=
    Path.plain_of_mem_components (List.mem_reverse.1 mem)
  rw [makeFolders, if_neg text]
  rw [folderPath, ← List.reverse_reverse p.components] at folder
  cases backwards : p.components.reverse with
  | nil => rfl
  | cons c cs =>
    rw [backwards] at folder plain
    refine makeFoldersFrom_of_isFolder ?_ folder
    rw [List.reverse_cons]
    exact bare_ofComponents cs.reverse (plain c List.mem_cons_self)

/-- A folder that has been created is not created again, as long as its path leads to it. -/
theorem makeFolders_again {files : FileSystem} (made : fs.makeFolders p = .ok fs')
    (stays : fs'.Stays files (folderPath p)) : files.makeFolders p = .ok files := by
  obtain ⟨-, none | folder⟩ := makeFolders_eq_ok made
  · unfold makeFolders at made ⊢
    rw [none] at made ⊢
    split at made
    · cases made
    · rename_i text
      rw [if_neg text]
      rfl
  · unfold makeFolders at made
    split at made
    · cases made
    · rename_i text
      exact makeFolders_of_isFolder text (stays.isFolder folder)

/-- The root folder is there. -/
theorem makeFolders_root {mode : Nat} (root : fs.get? [] = some (.folder mode)) :
    fs.makeFolders ⟨"/"⟩ = .ok fs := by
  have whole : folderPath ⟨"/"⟩ = ⟨"/"⟩ := by decide +kernel
  have plain : (Path.mk "/").text.toList.any (fun c => c.toNat == 0) = false := by decide
  have filled : (Path.mk "/").text.isEmpty = false := by decide
  have single : pieces ⟨"/"⟩ = ["."] := by decide
  have start : (Path.mk "/").isAbsolute = true := by decide
  refine makeFolders_of_isFolder (by rw [plain]; exact Bool.false_ne_true) ?_
  rw [whole, isFolder, node?, target?, plain, filled, single, start, if_neg Bool.false_ne_true,
    if_neg Bool.false_ne_true, if_pos rfl, walk_here root, walk, root]

end FileSystem

end CoreTrial
