import CoreTrial.Proofs.FileSystem.Replace

/-!
# Paths that are not disturbed

A path looks at the places that it passes, and at no others. Where these stay what they are to a
path, it still leads to the same place. So a path that leads to a node goes on to lead there when a
file gets other bytes, when a file is created in a free place, and when the file of another path is
replaced, even if that path ends in a link.
-/

set_option autoImplicit false

namespace CoreTrial.FileSystem

/-- What a node is to a path that comes to it. -/
inductive Way where
  | folder
  | link (target : Path)
  /-- There is no way on. -/
  | stop

end FileSystem

/-- What the node is to a path that comes to it. -/
def Node.way : Node → FileSystem.Way
  | .folder _ => .folder
  | .link target => .link target
  | .file _ _ _ => .stop
  | .device _ => .stop

/-- The node with other bytes, if it is the file of this number. -/
def Node.withBytes (number : Nat) (bytes : ByteArray) : Node → Node
  | .file k mode old => .file k mode (if k = number then bytes else old)
  | n => n

namespace FileSystem

/-- On the way at a place, with some pieces left, a path looks at a place. -/
def Looks (s : Place × List String) (a : Place) : Prop :=
  s.1 = a ∨ ∃ name more, s.2 = name :: more ∧ name ≠ "." ∧ name ≠ ".." ∧ a = name :: s.1

variable {fs fs' : FileSystem} {links : Nat} {at_ q x : Place} {rest : List String} {n : Node}
  {p other : Path}

theorem exists_folder_of_way {o o' : Option Node} {mode : Nat}
    (same : o'.map Node.way = o.map Node.way)
    (folder : o = some (.folder mode)) : ∃ mode', o' = some (.folder mode') := by
  subst folder
  obtain ⟨n, rfl, way⟩ := Option.map_eq_some_iff.1 same
  cases n with
  | folder mode' => exact ⟨mode', rfl⟩
  | _ => cases way

theorem link_of_way {o o' : Option Node} {target : Path} (same : o'.map Node.way = o.map Node.way)
    (link : o = some (.link target)) : o' = some (.link target) := by
  subst link
  obtain ⟨n, rfl, way⟩ := Option.map_eq_some_iff.1 same
  cases n with
  | link target' =>
    cases way
    rfl
  | _ => cases way

/-- A path leads where it led, if all that it looks at has stayed what it is to a path. -/
theorem walk_undisturbed (ends : fs.walk true links at_ rest = .ok (.node q n))
    (same : ∀ s, fs.Steps (at_, rest) s → ∀ a, Looks s a →
      (fs'.get? a).map Node.way = (fs.get? a).map Node.way) :
    ∃ n', fs'.walk true links at_ rest = .ok (.node q n') := by
  fun_induction walk fs true links at_ rest with
  | case1 links at_ m found =>
    have here_same := same _ .refl at_ (.inl rfl)
    cases ends
    obtain ⟨n', found', -⟩ := Option.map_eq_some_iff.1 (here_same.trans (congrArg _ found))
    exact ⟨n', by rw [walk, found']⟩
  | case3 links at_ rest mode folder ih =>
    obtain ⟨mode', folder'⟩ := exists_folder_of_way (same _ .refl at_ (.inl rfl)) folder
    rw [walk_here folder']
    exact ih ends fun s steps => same s (.head (.here folder rfl rest) steps)
  | case4 links at_ rest mode folder _ ih =>
    obtain ⟨mode', folder'⟩ := exists_folder_of_way (same _ .refl at_ (.inl rfl)) folder
    rw [walk_up folder']
    exact ih ends fun s steps => same s (.head (.up folder rfl rest) steps)
  | case7 links at_ piece rest mode folder here up target found last =>
    simp at last
  | case9 at_ piece rest mode folder here up target found on links ih =>
    obtain ⟨mode', folder'⟩ := exists_folder_of_way (same _ .refl at_ (.inl rfl)) folder
    have piece_same := same _ .refl (piece :: at_) (.inr ⟨piece, rest, rfl, here, up, rfl⟩)
    rw [walk_follow folder' here up (link_of_way piece_same found) (Bool.and_false _)]
    exact ih ends fun s steps => same s (.head (.follow folder here up found rest) steps)
  | case10 links at_ piece rest mode folder here up m away found ih =>
    obtain ⟨mode', folder'⟩ := exists_folder_of_way (same _ .refl at_ (.inl rfl)) folder
    have no_link : ∀ target, m ≠ .link target := fun target e => away target e
    have piece_same := same _ .refl (piece :: at_) (.inr ⟨piece, rest, rfl, here, up, rfl⟩)
    obtain ⟨m', found', way⟩ := Option.map_eq_some_iff.1 (piece_same.trans (congrArg _ found))
    have no_link' : ∀ target, m' ≠ .link target := by
      rintro target rfl
      exact no_link target (Option.some.inj (found.symm.trans (link_of_way piece_same.symm found')))
    rw [walk_enter folder' here up found' no_link']
    exact ih ends fun s steps => same s (.head (.enter folder here up found no_link rest) steps)
  | _ => cases ends

/-- Where a path starts, and the pieces of it. -/
def start (fs : FileSystem) (p : Path) : Place × List String :=
  (if p.isAbsolute then [] else fs.home, pieces p)

theorem target?_of_node? (leads : fs.node? p = .ok (q, n)) :
    fs.target? true p = .ok (.node q n) := by
  unfold node? at leads
  split at leads
  · cases leads
    assumption
  · cases leads
  · cases leads

theorem get?_of_node? (leads : fs.node? p = .ok (q, n)) : fs.get? q = some n := by
  have ends := target?_of_node? leads
  rw [target?_of_ok ends] at ends
  exact get?_of_walk ends

/-- A path to a node comes by steps to its place. -/
theorem steps_of_node? (leads : fs.node? p = .ok (q, n)) : fs.Steps (fs.start p) (q, []) := by
  have ends := target?_of_node? leads
  rw [target?_of_ok ends] at ends
  rcases steps_of_walk ends with ⟨_, -, steps⟩ | ⟨_, _, _, free, _⟩
  · exact steps
  · cases free rfl

/-- Where no way leads on is where the path ends. -/
theorem eq_of_stuck {s : Place × List String} (leads : fs.node? p = .ok (q, n))
    (steps : fs.Steps (fs.start p) s) (stuck : ∀ t, ¬ Step fs s t) : s = (q, []) := by
  rcases ((steps_of_node? leads).to_end steps stuck).cases_head with same | ⟨_, step, _⟩
  · exact same.symm
  · exact absurd step (not_step_nil q _)

/-- A path leads where it led, if all that it looks at has stayed what it is to a path. -/
theorem node?_undisturbed (leads : fs.node? p = .ok (q, n)) (home : fs'.home = fs.home)
    (same : ∀ s, fs.Steps (fs.start p) s → ∀ a, Looks s a →
      (fs'.get? a).map Node.way = (fs.get? a).map Node.way) :
    ∃ n', fs'.node? p = .ok (q, n') ∧ fs'.get? q = some n' := by
  have ends := target?_of_node? leads
  have follows := target?_of_ok ends
  rw [follows] at ends
  obtain ⟨n', ends'⟩ := walk_undisturbed ends same
  have leads' : fs'.node? p = .ok (q, n') := by
    rw [node?, follows, home, ends']
  exact ⟨n', leads', get?_of_node? leads'⟩

/-- A path leads to the same node, if it does not look at the one place that has changed. -/
theorem node?_of_away (leads : fs.node? p = .ok (q, n)) (home : fs'.home = fs.home)
    (same : ∀ a, a ≠ x → fs'.get? a = fs.get? a)
    (away : ∀ s, fs.Steps (fs.start p) s → ¬ Looks s x) : fs'.node? p = .ok (q, n) := by
  have other {s : Place × List String} {a : Place} (steps : fs.Steps (fs.start p) s)
      (looks : Looks s a) : fs'.get? a = fs.get? a := by
    refine same a ?_
    rintro rfl
    exact away s steps looks
  obtain ⟨n', leads', found⟩ :=
    node?_undisturbed leads home fun s steps a looks => congrArg _ (other steps looks)
  have stays := other (steps_of_node? leads) (.inl rfl)
  rw [stays, get?_of_node? leads] at found
  cases found
  exact leads'

/-- A place without a node, or with a node that is no folder, is no way on. -/
theorem not_step_of_looks {s : Place × List String} (looks : Looks s x) (free : fs.get? x = none)
    (t : Place × List String) : ¬ Step fs s t := by
  rcases looks with rfl | ⟨name, more, same, here, up, rfl⟩
  · rintro (⟨folder⟩ | ⟨folder⟩ | ⟨folder⟩ | ⟨folder⟩)
    all_goals
      rw [free] at folder
      cases folder
  · obtain ⟨place, pieces⟩ := s
    cases same
    rintro (⟨-, rfl⟩ | ⟨-, rfl⟩ | ⟨-, -, -, found⟩ | ⟨-, -, -, found⟩)
    · exact here rfl
    · exact up rfl
    all_goals
      rw [free] at found
      cases found

/-- A path to a node does not look at free places. -/
theorem found_of_looks {s : Place × List String} (leads : fs.node? p = .ok (q, n))
    (steps : fs.Steps (fs.start p) s) (looks : Looks s x) : ∃ m, fs.get? x = some m := by
  refine Option.ne_none_iff_exists'.1 fun free => ?_
  have same := eq_of_stuck leads steps (not_step_of_looks looks free)
  subst same
  rcases looks with rfl | ⟨_, _, none, _⟩
  · rw [get?_of_node? leads] at free
    cases free
  · cases none

theorem node?_put_of_free (leads : fs.node? p = .ok (q, n)) (free : fs.get? x = none) (m : Node)
    (next : Nat) : ({ fs.put x m with next := next } : FileSystem).node? p = .ok (q, n) := by
  refine node?_of_away leads rfl (fun a other => get?_put_of_ne fs m other) ?_
  intro s steps looks
  obtain ⟨_, found⟩ := found_of_looks leads steps looks
  cases free.symm.trans found

/-- A path to a node leads to the same place when files have got other bytes. -/
theorem node?_of_ways (leads : fs.node? p = .ok (q, n)) (home : fs'.home = fs.home)
    (ways : ∀ a, (fs'.get? a).map Node.way = (fs.get? a).map Node.way) :
    ∃ n', fs'.node? p = .ok (q, n') ∧ fs'.get? q = some n' :=
  node?_undisturbed leads home fun _ _ a _ => ways a

/-- A path to a node leads to the same node when a file elsewhere has got other bytes. -/
theorem node?_put_of_file {number mode : Nat} {bytes more : ByteArray}
    (leads : fs.node? p = .ok (q, n)) (file : fs.get? x = some (.file number mode bytes)) :
    (fs.put x (.file number mode more)).node? p =
      .ok (q, if q = x then .file number mode more else n) := by
  have ways (a : Place) : ((fs.put x (.file number mode more)).get? a).map Node.way =
      (fs.get? a).map Node.way := by
    by_cases same : a = x
    · rw [same, get?_put_self, file]
      rfl
    · rw [get?_put_of_ne fs _ same]
  have home : (fs.put x (.file number mode more)).home = fs.home := rfl
  obtain ⟨n', leads', found⟩ := node?_of_ways leads home ways
  by_cases same : q = x
  · rw [same, get?_put_self] at found
    cases found
    rw [leads', if_pos same]
  · rw [get?_put_of_ne fs _ same, get?_of_node? leads] at found
    cases found
    rw [leads', if_neg same]

theorem get?_truncate (fs : FileSystem) (number : Nat) (a : Place) :
    (fs.truncate number).get? a = (fs.get? a).map (Node.withBytes number .empty) := by
  have nodes : (fs.truncate number).nodes =
      fs.nodes.map fun n => (n.1, n.2.withBytes number .empty) := by
    refine List.map_congr_left ?_
    rintro ⟨place, n⟩ -
    cases n <;> rfl
  rw [get?, nodes, List.find?_map, Option.map_map, get?, Option.map_map]
  rfl

/-- A path to a node leads to the same place when a file is emptied. -/
theorem node?_truncate (leads : fs.node? p = .ok (q, n)) (number : Nat) :
    (fs.truncate number).node? p = .ok (q, n.withBytes number .empty) := by
  have ways (a : Place) :
      ((fs.truncate number).get? a).map Node.way = (fs.get? a).map Node.way := by
    rw [get?_truncate, Option.map_map]
    congr 1
    funext n
    cases n <;> rfl
  have home : (fs.truncate number).home = fs.home := rfl
  obtain ⟨n', leads', found⟩ := node?_of_ways leads home ways
  rw [get?_truncate, get?_of_node? leads] at found
  cases found
  exact leads'

/-- A path whose end is no link leads there also when links at the end are followed. -/
theorem walk_true_of_walk_false {t : Target} (ends : fs.walk false links at_ rest = .ok t)
    (no_link : ∀ target, t.node? ≠ some (.link target)) :
    fs.walk true links at_ rest = .ok t := by
  fun_induction walk fs false links at_ rest with
  | case1 links at_ m found =>
    rw [walk, found]
    exact ends
  | case3 links at_ rest mode folder ih =>
    rw [walk_here folder]
    exact ih ends
  | case4 links at_ rest mode folder _ ih =>
    rw [walk_up folder]
    exact ih ends
  | case5 links at_ piece rest mode folder here up found last =>
    rw [walk, folder]
    simpa [here, up, found, last] using ends
  | case7 links at_ piece rest mode folder here up target found last =>
    cases ends
    exact absurd rfl (no_link target)
  | case9 at_ piece rest mode folder here up target found on links ih =>
    rw [walk_follow folder here up found (Bool.and_false _)]
    exact ih ends
  | case10 links at_ piece rest mode folder here up m away found ih =>
    rw [walk_enter folder here up found fun target e => away target e]
    exact ih ends
  | _ => cases ends

section Replacing

variable {f place : Place} {m : Node} {target : Path} (leads : fs.node? p = .ok (q, n))
  (source : fs.node? other = .ok (f, m)) (no_folder : ∀ mode, m ≠ .folder mode)
  (no_link : ∀ target, n ≠ .link target) (no_link' : ∀ target, m ≠ .link target) (apart : q ≠ f)

include leads source no_folder no_link no_link' apart

/-- The path of a file does not look at the link in which the path of another file ends. -/
theorem not_looks_of_link (last : fs.target? false other = .ok (.node place (.link target)))
    (s : Place × List String) (steps : fs.Steps (fs.start p) s) : ¬ Looks s place := by
  rw [target?_of_ok (target?_of_node? source)] at last
  have link : fs.get? place = some (.link target) := get?_of_walk last
  rcases steps_of_walk last with ⟨_, -, to_link⟩ | ⟨name, folder, same, -, to_link⟩
  · cases eq_of_stuck source to_link (not_step_nil _)
    exact absurd (Option.some.inj ((get?_of_node? source).symm.trans link)) (no_link' target)
  · rintro (rfl | ⟨name', more, pieces, -, -, rfl⟩)
    · have stuck := not_step_of_not_folder link (by simp) s.2
      cases eq_of_stuck leads steps stuck
      exact no_link target (Option.some.inj ((get?_of_node? leads).symm.trans link))
    · -- From the link the way goes on to the other file, with all pieces that are left.
      obtain ⟨at_, rest⟩ := s
      cases pieces
      cases same
      have to_file := to_link.to_end (steps_of_node? source) (not_step_nil f)
      have stuck := not_step_of_not_folder (get?_of_node? source) no_folder more
      cases eq_of_stuck leads (steps.trans (to_file.append more)) stuck
      exact apart rfl

/-- The path of a file leads to it when another file is replaced. -/
theorem node?_replace {bytes : ByteArray} (replaced : fs.replace other bytes = .ok fs') :
    fs'.node? p = .ok (q, n) := by
  obtain ⟨t, bits, last, -, result⟩ := replace_eq_ok replaced
  have made := Except.ok.inj (replaced.symm.trans (result bytes))
  have home : fs'.home = fs.home := by rw [made]; rfl
  have same (a : Place) (away : a ≠ t.place) : fs'.get? a = fs.get? a := by
    rw [made]
    exact get?_put_of_ne fs (.file fs.next bits bytes) away
  have new : fs'.get? t.place = some (.file fs.next bits bytes) := by
    rw [made]
    exact get?_put_self fs t.place (.file fs.next bits bytes)
  by_cases link : ∃ target, t.node? = some (.link target)
  · obtain ⟨target, link⟩ := link
    cases t with
    | free place => cases link
    | node place _ =>
      cases link
      exact node?_of_away leads home same
        (not_looks_of_link leads source no_folder no_link no_link' apart last)
  · -- The path ends at the file itself, so one file takes the place of another.
    have follows := target?_of_ok (target?_of_node? source)
    rw [follows] at last
    have ends := walk_true_of_walk_false last fun target e => link ⟨target, e⟩
    rw [← follows, target?_of_node? source] at ends
    cases ends
    have ways (a : Place) : (fs'.get? a).map Node.way = (fs.get? a).map Node.way := by
      by_cases here : a = f
      · subst here
        rw [get?_of_node? source]
        refine (congrArg _ new).trans ?_
        cases m with
        | folder mode => exact absurd rfl (no_folder mode)
        | link target => exact absurd rfl (no_link' target)
        | _ => rfl
      · rw [same a here]
    obtain ⟨n', leads', found⟩ := node?_of_ways leads home ways
    rw [same q apart, get?_of_node? leads] at found
    cases found
    exact leads'

end Replacing

end CoreTrial.FileSystem
