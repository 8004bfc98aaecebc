import CoreTrial.FileSystem.Basic
import Mathlib.Logic.Relation

/-!
# Following a path

`step?` is one step on a path: a place, and the pieces that are still to be followed from it. A link
puts the pieces of its target before those that are left, so what is left plays no part in how the
first pieces are followed. Hence a link that is passed on the way to another piece cannot also be
where a path to a file ends.
-/

set_option autoImplicit false

namespace CoreTrial.FileSystem

/-- The place that a path leads to. -/
def Target.place : Target → Place
  | .node place _ => place
  | .free place => place

/-- The node at the end of a path. -/
def Target.node? : Target → Option Node
  | .node _ n => some n
  | .free _ => none

/-- The place from which the target of a link is followed. -/
def linkStart (target : Path) (folder : Place) : Place :=
  if target.isAbsolute then [] else folder

variable {fs : FileSystem} {follow : Bool} {links : Nat} {at_ : Place} {piece : String}
  {rest : List String} {mode : Nat}

section Equations

variable (folder : fs.get? at_ = some (.folder mode))

include folder

theorem walk_here : fs.walk follow links at_ ("." :: rest) = fs.walk follow links at_ rest := by
  rw [walk, folder]
  simp

theorem walk_up : fs.walk follow links at_ (".." :: rest) = fs.walk follow links at_.tail rest := by
  rw [walk, folder]
  simp

variable (here : piece ≠ ".") (up : piece ≠ "..")

include here up

theorem walk_enter {n : Node} (found : fs.get? (piece :: at_) = some n)
    (other : ∀ target, n ≠ .link target) :
    fs.walk follow links at_ (piece :: rest) = fs.walk follow links (piece :: at_) rest := by
  rw [walk, folder]
  cases n with
  | link target => exact absurd rfl (other target)
  | _ => simp [here, up, found]

theorem walk_follow {target : Path} (found : fs.get? (piece :: at_) = some (.link target))
    (on : (rest.isEmpty && !follow) = false) :
    fs.walk follow (links + 1) at_ (piece :: rest) =
      fs.walk follow links (linkStart target at_) (pieces target ++ rest) := by
  rw [walk, folder]
  simp [here, up, found, on, linkStart]

theorem walk_last {target : Path} (found : fs.get? (piece :: at_) = some (.link target)) :
    fs.walk false links at_ [piece] = .ok (.node (piece :: at_) (.link target)) := by
  rw [walk, folder]
  simp [here, up, found]

end Equations

/-- One step on a path. Links are followed, also at the end. -/
inductive Step (fs : FileSystem) : Place × List String → Place × List String → Prop
  | here {at_ : Place} {mode : Nat} (folder : fs.get? at_ = some (.folder mode))
      {piece : String} (here : piece = ".") (rest : List String) :
      Step fs (at_, piece :: rest) (at_, rest)
  | up {at_ : Place} {mode : Nat} (folder : fs.get? at_ = some (.folder mode))
      {piece : String} (up : piece = "..") (rest : List String) :
      Step fs (at_, piece :: rest) (at_.tail, rest)
  | follow {at_ : Place} {mode : Nat} (folder : fs.get? at_ = some (.folder mode))
      {piece : String} (here : piece ≠ ".") (up : piece ≠ "..") {target : Path}
      (found : fs.get? (piece :: at_) = some (.link target)) (rest : List String) :
      Step fs (at_, piece :: rest) (linkStart target at_, pieces target ++ rest)
  | enter {at_ : Place} {mode : Nat} (folder : fs.get? at_ = some (.folder mode))
      {piece : String} (here : piece ≠ ".") (up : piece ≠ "..") {n : Node}
      (found : fs.get? (piece :: at_) = some n) (other : ∀ target, n ≠ .link target)
      (rest : List String) : Step fs (at_, piece :: rest) (piece :: at_, rest)

/-- Any number of steps. -/
abbrev Steps (fs : FileSystem) : Place × List String → Place × List String → Prop :=
  Relation.ReflTransGen (Step fs)

theorem Step.unique {s t u : Place × List String} (h : Step fs s t) (h' : Step fs s u) : t = u := by
  cases h <;> cases h' <;> grind

/-- What is left plays no part in a step. -/
theorem Step.append {s t : Place × List String} (h : Step fs s t) (more : List String) :
    Step fs (s.1, s.2 ++ more) (t.1, t.2 ++ more) := by
  cases h with
  | here folder here rest => exact .here folder here (rest ++ more)
  | up folder up rest => exact .up folder up (rest ++ more)
  | follow folder here up found rest =>
    rw [List.append_assoc]
    exact .follow folder here up found (rest ++ more)
  | enter folder here up found other rest => exact .enter folder here up found other (rest ++ more)

theorem Steps.append {s t : Place × List String} (h : fs.Steps s t) (more : List String) :
    fs.Steps (s.1, s.2 ++ more) (t.1, t.2 ++ more) := by
  induction h with
  | refl => exact .refl
  | tail _ step ih => exact ih.tail (step.append more)

/-- All steps lead to where no more can be taken. -/
theorem Steps.to_end {s t u : Place × List String} (h : fs.Steps s t) (h' : fs.Steps s u)
    (last : ∀ v, ¬ Step fs u v) : fs.Steps t u := by
  have one : Relator.RightUnique (Step fs) := fun _ _ _ => Step.unique
  rcases Relation.ReflTransGen.total_of_right_unique one h h' with on | back
  · exact on
  · rcases Relation.ReflTransGen.cases_head back with rfl | ⟨v, step, -⟩
    · exact .refl
    · exact absurd step (last v)

theorem get?_of_walk {t : Target} (h : fs.walk follow links at_ rest = .ok t) :
    fs.get? t.place = t.node? := by
  fun_induction walk fs follow links at_ rest with
  | case1 links at_ n found =>
    cases h
    exact found
  | case3 links at_ rest mode folder ih => exact ih h
  | case4 links at_ rest mode folder _ ih => exact ih h
  | case5 links at_ piece rest mode folder here up found =>
    cases h
    exact found
  | case7 links at_ piece rest mode folder here up target found =>
    cases h
    exact found
  | case9 at_ piece rest mode folder here up target found on links ih => exact ih h
  | case10 links at_ piece rest mode folder here up n other found ih => exact ih h
  | _ => cases h

/-- A path that is followed leads by steps to its place, or to the last piece before it. -/
theorem steps_of_walk {t : Target} (h : fs.walk follow links at_ rest = .ok t) :
    (∃ n, t = .node t.place n ∧ fs.Steps (at_, rest) (t.place, [])) ∨
    ∃ name folder, t.place = name :: folder ∧ (follow = true → t = .free t.place) ∧
      fs.Steps (at_, rest) (folder, [name]) := by
  -- A step at the start of the path goes before the steps of what follows.
  have first {s u : Place × List String} (step : Step fs s u)
      (ih : (∃ n, t = .node t.place n ∧ fs.Steps u (t.place, [])) ∨
        ∃ name folder, t.place = name :: folder ∧ (follow = true → t = .free t.place) ∧
          fs.Steps u (folder, [name])) :
      (∃ n, t = .node t.place n ∧ fs.Steps s (t.place, [])) ∨
        ∃ name folder, t.place = name :: folder ∧ (follow = true → t = .free t.place) ∧
          fs.Steps s (folder, [name]) := by
    rcases ih with ⟨n, node, steps⟩ | ⟨name, place, same, free, steps⟩
    · exact .inl ⟨n, node, .head step steps⟩
    · exact .inr ⟨name, place, same, free, .head step steps⟩
  fun_induction walk fs follow links at_ rest with
  | case1 links at_ n =>
    cases h
    exact .inl ⟨n, rfl, .refl⟩
  | case3 links at_ rest mode folder ih => exact first (.here folder rfl rest) (ih h)
  | case4 links at_ rest mode folder _ ih => exact first (.up folder rfl rest) (ih h)
  | case5 links at_ piece rest mode folder here up found last =>
    cases h
    rw [List.isEmpty_iff.1 last]
    exact .inr ⟨piece, at_, rfl, fun _ => rfl, .refl⟩
  | case7 links at_ piece rest mode folder here up target found last =>
    cases h
    obtain ⟨last, stays⟩ := Bool.and_eq_true_iff.1 last
    rw [List.isEmpty_iff.1 last]
    refine .inr ⟨piece, at_, rfl, fun on => ?_, .refl⟩
    rw [on] at stays
    cases stays
  | case9 at_ piece rest mode folder here up target found on links ih =>
    exact first (.follow folder here up found rest) (ih h)
  | case10 links at_ piece rest mode folder here up n other found ih =>
    exact first (.enter folder here up found other rest) (ih h)
  | _ => cases h

theorem not_step_nil (a : Place) (s : Place × List String) : ¬ Step fs (a, []) s := nofun

/-- There is no way on from what is no folder. -/
theorem not_step_of_not_folder {a : Place} {n : Node} (found : fs.get? a = some n)
    (other : ∀ mode, n ≠ .folder mode) (rest : List String) (s : Place × List String) :
    ¬ Step fs (a, rest) s := by
  rintro (⟨folder⟩ | ⟨folder⟩ | ⟨folder⟩ | ⟨folder⟩)
  all_goals
    rw [found] at folder
    exact other _ (Option.some.inj folder)

/-- A link that is passed on the way to a file is not the end of the path. -/
theorem place_ne_of_passed {target : Path} {n : Node} {q : Place} {t : Target}
    (folder : fs.get? at_ = some (.folder mode)) (here : piece ≠ ".") (up : piece ≠ "..")
    (found : fs.get? (piece :: at_) = some (.link target)) (more : rest ≠ [])
    (ends : fs.walk true links at_ (piece :: rest) = .ok (.node q n))
    (no_folder : ∀ mode, n ≠ .folder mode) (no_link : ∀ target, n ≠ .link target)
    (last : fs.walk false links at_ (piece :: rest) = .ok t) : t.place ≠ piece :: at_ := by
  intro passed
  have follow : Step fs (at_, [piece]) (linkStart target at_, pieces target) := by
    have step := Step.follow folder here up found []
    rwa [List.append_nil] at step
  have file : fs.get? q = some n := get?_of_walk ends
  obtain ⟨_, node, to_file⟩ | ⟨_, _, _, free, _⟩ := steps_of_walk ends
  · cases node
    rcases steps_of_walk last with ⟨_, _, to_link⟩ | ⟨name, place, same, -, to_link⟩
    -- The path would end at the link with no piece left, so the link would be the file.
    · rw [passed] at to_link
      rcases (to_file.to_end to_link (not_step_nil _)).cases_head with same | ⟨_, step, _⟩
      · cases same
        exact no_link target (Option.some.inj (file.symm.trans found))
      · exact not_step_nil _ _ step
    -- It would come back to the link as its last piece, and from there to the file. But what leads
    -- from the link to the file does so also with the pieces that were left at first.
    · rw [passed] at same
      cases same
      have on := Steps.to_end (.single follow) (to_link.to_end to_file (not_step_nil _))
        (not_step_nil _)
      have stuck := (Steps.append on rest).head (.follow folder here up found rest)
      rcases (Steps.to_end stuck to_file (not_step_nil _)).cases_head with same | ⟨_, step, _⟩
      · cases same
        exact more rfl
      · exact not_step_of_not_folder file no_folder _ _ step
  · cases free rfl

end CoreTrial.FileSystem
