import CoreTrial.Proofs.FileSystem.Leads

/-!
# Files that keep their places

Writing to files and creating what is not there leaves every node where it is, and leaves its kind
as it is. So a path that has led somewhere leads there still, and bytes that could be written can be
written again.
-/

set_option autoImplicit false

namespace CoreTrial

/-- The kind of a node, with the target of a link. -/
inductive Node.Shape where
  | folder
  | file
  | link (target : Path)
  | device (kind : CharDevice)
  deriving DecidableEq

namespace Node

/-- A node without its number, its permission bits and its bytes. -/
def shape : Node → Shape
  | .folder _ => .folder
  | .file _ _ _ => .file
  | .link target => .link target
  | .device kind => .device kind

theorem way_of_shape {n n' : Node} (same : n'.shape = n.shape) : n'.way = n.way := by
  cases n <;> cases n' <;> simp_all [shape, way]

/-- What a node is once bytes have been written to it. A device keeps none. -/
inductive Written (bytes : ByteArray) : Node → Prop
  | file (number mode : Nat) : Written bytes (.file number mode bytes)
  | device (kind : CharDevice) : Written bytes (.device kind)

/-- A node of the same shape can be written to as well. -/
theorem Written.of_shape {n n' : Node} {bytes : ByteArray} (written : n.Written bytes)
    (same : n'.shape = n.shape) : ∃ old, n'.Written old := by
  cases written with
  | file number mode =>
    cases n' with
    | file number' mode' old => exact ⟨old, .file number' mode'⟩
    | _ => cases same
  | device kind =>
    cases n' with
    | device kind' => exact ⟨bytes, .device kind'⟩
    | _ => cases same

end Node

namespace FileSystem

variable {fs fs' fs'' : FileSystem} {p : Path} {q x : Place} {n m : Node} {bytes : ByteArray}

/-- A path still leads to the same place, to a node of the same shape. -/
def Stays (fs fs' : FileSystem) (p : Path) : Prop :=
  ∀ q n, fs.node? p = .ok (q, n) → ∃ n', fs'.node? p = .ok (q, n') ∧ n'.shape = n.shape

/-- The place of the node that a path leads to. -/
def place? (fs : FileSystem) (p : Path) : Option Place :=
  (fs.node? p).toOption.map Prod.fst

theorem place?_eq_some_iff : fs.place? p = some q ↔ ∃ n, fs.node? p = .ok (q, n) := by
  unfold place?
  cases fs.node? p with
  | error e => simp [Except.toOption]
  | ok found =>
    obtain ⟨q', n⟩ := found
    simp [Except.toOption, eq_comm]

/-- A text that is read stands somewhere. -/
theorem place?_of_readText {text : String} (read : fs.readText p = .ok text) :
    ∃ q, fs.place? p = some q := by
  obtain ⟨q, n, ends, -⟩ := target?_of_readBytes (readText_eq_ok_iff.1 read)
  exact ⟨q, place?_eq_some_iff.2 ⟨n, by rw [node?, ends]⟩⟩

namespace Stays

theorem refl (fs : FileSystem) (p : Path) : fs.Stays fs p :=
  fun _ n leads => ⟨n, leads, rfl⟩

theorem trans (h : fs.Stays fs' p) (h' : fs'.Stays fs'' p) : fs.Stays fs'' p := by
  intro q n leads
  obtain ⟨n', leads', same⟩ := h q n leads
  obtain ⟨n'', leads'', same'⟩ := h' q n' leads'
  exact ⟨n'', leads'', same'.trans same⟩

theorem place? (h : fs.Stays fs' p) (leads : fs.place? p = some q) : fs'.place? p = some q := by
  obtain ⟨n, leads⟩ := place?_eq_some_iff.1 leads
  obtain ⟨n', leads', -⟩ := h q n leads
  exact place?_eq_some_iff.2 ⟨n', leads'⟩

/-- A path that has led to a folder leads to one. -/
theorem isFolder (h : fs.Stays fs' p) (folder : fs.isFolder p = true) :
    fs'.isFolder p = true := by
  unfold FileSystem.isFolder at folder ⊢
  cases leads : fs.node? p with
  | error e => simp [leads] at folder
  | ok found =>
    obtain ⟨q, n⟩ := found
    obtain ⟨n', leads', same⟩ := h q n leads
    rw [leads] at folder
    rw [leads']
    cases n with
    | folder mode =>
      cases n' with
      | folder mode' => rfl
      | _ => cases same
    | _ => cases folder

end Stays

/-- Every node stays where it is and keeps its shape. -/
structure Keeps (fs fs' : FileSystem) : Prop where
  home : fs'.home = fs.home
  nodes : ∀ q n, fs.get? q = some n → ∃ n', fs'.get? q = some n' ∧ n'.shape = n.shape

namespace Keeps

theorem refl (fs : FileSystem) : fs.Keeps fs where
  home := rfl
  nodes _ n found := ⟨n, found, rfl⟩

theorem trans (h : fs.Keeps fs') (h' : fs'.Keeps fs'') : fs.Keeps fs'' where
  home := h'.home.trans h.home
  nodes q n found := by
    obtain ⟨n', found', same⟩ := h.nodes q n found
    obtain ⟨n'', found'', same'⟩ := h'.nodes q n' found'
    exact ⟨n'', found'', same'.trans same⟩

/-- A node can make way for one of its shape. -/
theorem put_of_shape (found : fs.get? x = some m) (same : n.shape = m.shape) :
    fs.Keeps (fs.put x n) where
  home := rfl
  nodes q m' there := by
    by_cases here : q = x
    · subst here
      cases found.symm.trans there
      exact ⟨n, get?_put_self fs q n, same⟩
    · exact ⟨m', (get?_put_of_ne fs n here).trans there, rfl⟩

/-- A path leads where it led: it looks only at places at which there are nodes. -/
theorem stays (h : fs.Keeps fs') (p : Path) : fs.Stays fs' p := by
  intro q n leads
  have ways (s : Place × List String) (steps : fs.Steps (fs.start p) s) (a : Place)
      (looks : Looks s a) : (fs'.get? a).map Node.way = (fs.get? a).map Node.way := by
    obtain ⟨m, found⟩ := found_of_looks leads steps looks
    obtain ⟨m', found', same⟩ := h.nodes a m found
    rw [found, found', Option.map_some, Option.map_some, Node.way_of_shape same]
  obtain ⟨n', leads', there⟩ := node?_undisturbed leads h.home ways
  obtain ⟨n'', there', same⟩ := h.nodes q n (get?_of_node? leads)
  cases there.symm.trans there'
  exact ⟨n', leads', same⟩

end Keeps

/-- Every node stays as it is, and others may come. -/
structure Grows (fs fs' : FileSystem) : Prop where
  home : fs'.home = fs.home
  nodes : ∀ q n, fs.get? q = some n → fs'.get? q = some n

namespace Grows

theorem refl (fs : FileSystem) : fs.Grows fs where
  home := rfl
  nodes _ _ found := found

theorem trans (h : fs.Grows fs') (h' : fs'.Grows fs'') : fs.Grows fs'' where
  home := h'.home.trans h.home
  nodes q n found := h'.nodes q n (h.nodes q n found)

theorem keeps (h : fs.Grows fs') : fs.Keeps fs' where
  home := h.home
  nodes q n found := ⟨n, h.nodes q n found, rfl⟩

/-- What is put in a free place is one more node. -/
theorem put_of_free (free : fs.get? x = none) (m : Node) (next : Nat) :
    fs.Grows { fs.put x m with next := next } where
  home := rfl
  nodes q n found := by
    refine (get?_put_of_ne fs m ?_).trans found
    rintro rfl
    cases free.symm.trans found

/-- A path leads to the node that it has led to. -/
theorem node? (h : fs.Grows fs') (leads : fs.node? p = .ok (q, n)) :
    fs'.node? p = .ok (q, n) := by
  obtain ⟨n', leads', -⟩ := h.keeps.stays p q n leads
  cases (get?_of_node? leads').symm.trans (h.nodes q n (get?_of_node? leads))
  exact leads'

end Grows

/-- Opening a file creates it at most. -/
theorem grows_of_openToWrite (opened : fs.openToWrite p = .ok (fs', q, n)) : fs.Grows fs' := by
  obtain ⟨-, rfl | ⟨free, -, rfl⟩⟩ := openToWrite_eq_ok opened
  · exact .refl fs'
  · exact .put_of_free free n (fs.next + 1)

/-- What is opened is a file or a device. -/
theorem written_of_openToWrite (opened : fs.openToWrite p = .ok (fs', q, n)) :
    ∃ old, n.Written old := by
  unfold openToWrite at opened
  split at opened
  · split at opened
    · cases opened
    · cases opened
    · rename_i m no_folder no_link
      cases opened
      cases n with
      | folder mode => exact absurd rfl (no_folder mode)
      | link target => exact absurd rfl (no_link target)
      | file number mode old => exact ⟨old, .file number mode⟩
      | device kind => exact ⟨.empty, .device kind⟩
  · cases opened
    exact ⟨.empty, .file fs.next newFileMode⟩
  · split at opened <;> cases opened

/-- Bytes that are written stand where the path leads, and nothing else changes. -/
theorem write_eq_ok (written : fs.write p bytes = .ok fs') :
    fs.Keeps fs' ∧ ∃ q n, fs'.node? p = .ok (q, n) ∧ n.Written bytes ∧
      ∀ a, a ≠ q → fs'.get? a = fs.get? a := by
  unfold write at written
  cases opened : fs.openToWrite p with
  | error e =>
    rw [opened] at written
    cases written
  | ok result =>
    obtain ⟨fs₁, q, n⟩ := result
    rw [opened] at written
    have keeps := (grows_of_openToWrite opened).keeps
    obtain ⟨leads, made⟩ := openToWrite_eq_ok opened
    obtain ⟨old, opens⟩ := written_of_openToWrite opened
    have others (a : Place) (away : a ≠ q) : fs₁.get? a = fs.get? a := by
      rcases made with rfl | ⟨-, -, rfl⟩
      · rfl
      · exact get?_put_of_ne fs n away
    cases opens with
    | file number mode =>
      cases written
      have leads' : (fs₁.put q (.file number mode bytes)).node? p = _ :=
        node?_put_of_file leads (get?_of_node? leads)
      rw [if_pos rfl] at leads'
      refine ⟨keeps.trans (.put_of_shape (get?_of_node? leads) rfl), q, _, leads',
        .file number mode, ?_⟩
      intro a away
      exact (get?_put_of_ne fs₁ _ away).trans (others a away)
    | device kind =>
      cases written
      exact ⟨keeps, q, _, leads, .device kind, others⟩

/-- Where a path leads to a file or a device, bytes can be written. -/
theorem exists_write {old : ByteArray} (leads : fs.node? p = .ok (q, n)) (open_ : n.Written old)
    (bytes : ByteArray) : ∃ fs', fs.write p bytes = .ok fs' := by
  have ends := target?_of_node? leads
  cases open_ with
  | file number mode => exact ⟨_, by rw [write, openToWrite, ends]⟩
  | device kind => exact ⟨_, by rw [write, openToWrite, ends]⟩

/-- What is read where bytes were written depends on the shape of the node alone. -/
theorem readBytes_of_written {q' : Place} {n' : Node} (leads : fs.node? p = .ok (q, n))
    (leads' : fs'.node? p = .ok (q', n')) (same : n'.shape = n.shape) (written : n.Written bytes)
    (written' : n'.Written bytes) : fs'.readBytes p = fs.readBytes p := by
  unfold readBytes
  rw [leads, leads']
  cases written with
  | file number mode =>
    cases written' with
    | file number' mode' => rfl
    | device kind' => cases same
  | device kind =>
    cases written' with
    | file number' mode' => cases same
    | device kind' =>
      cases same
      cases kind <;> rfl

end FileSystem

end CoreTrial
