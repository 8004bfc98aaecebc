import CoreTrial.Lock
import CoreTrial.Proofs.FileSystem.Leads
import Mathlib.Data.List.Nodup

/-!
# At most one lock on a file

Processes acquire and drop locks on any paths, and some die while they hold locks. What one such
event does to the files is `acquire_eq_ok`, `acquire_eq_error` and `Leads.truncate`. That locks stay
apart, and that a file holds the number of its lock's process for as long as the lock is held, is
kept by every event (`LockTable.Sound.after`) and so by any number of them.
-/

set_option autoImplicit false

namespace CoreTrial

open FileSystem (Leads Numbered)

namespace RunLock

variable {w w' : LockedFiles} {process number mode : Nat} {path : Path} {lock : RunLock}
  {e : LockError} {fs : FileSystem} {place : Place} {bytes : ByteArray}

/-- What is so once a lock has been acquired in a world. -/
structure Acquired (process : Nat) (path : Path) (w : LockedFiles) (lock : RunLock)
    (w' : LockedFiles) : Prop where
  path_eq : lock.path = path
  /-- The file is where the path has led, or a new one. -/
  found : (∃ old, w.files.Leads path lock.file old) ∨ lock.file = w.files.next
  idle : lock.file ∉ w.live
  live_eq : w'.live = lock.file :: w.live
  holds : w'.files.Leads path lock.file (content process)
  numbered : w.files.Numbered → w'.files.Numbered
  /-- Other files stay as they are. -/
  keeps : ∀ (other : Path) (number : Nat) (bytes : ByteArray), number ≠ lock.file →
    w.files.Leads other number bytes → w'.files.Leads other number bytes

/-- A locked file refuses a second lock. -/
theorem acquire_of_live
    (opened : w.files.openToWrite path = .ok (fs, place, .file number mode bytes))
    (live : number ∈ w.live) :
    acquire process path w = ({ w with files := fs }, .error (.held path)) := by
  have contains : w.live.contains number = true := List.contains_iff_mem.2 live
  simp only [acquire, opened, contains, if_true]

/-- A file without a lock is locked, whatever it holds. -/
theorem acquire_of_idle
    (opened : w.files.openToWrite path = .ok (fs, place, .file number mode bytes))
    (idle : number ∉ w.live) :
    acquire process path w =
      (⟨fs.put place (.file number mode (content process)), number :: w.live⟩,
        .ok ⟨path, number⟩) := by
  have contains : w.live.contains number = false := by
    rw [← Bool.not_eq_true, List.contains_iff_mem]
    exact idle
  simp only [acquire, opened, contains, Bool.false_eq_true, if_false]

/-- A device can be opened, but it has no length to be cut to. -/
theorem acquire_of_device {kind : CharDevice}
    (opened : w.files.openToWrite path = .ok (fs, place, .device kind)) :
    acquire process path w = (w, .error (.io .invalidArgument)) := by
  obtain ⟨-, rfl | ⟨-, new, -⟩⟩ := FileSystem.openToWrite_eq_ok opened
  · simp only [acquire, opened]
  · cases new

theorem acquire_eq_ok (h : acquire process path w = (w', .ok lock)) :
    Acquired process path w lock w' := by
  cases opened : w.files.openToWrite path with
  | error e => simp [acquire, opened] at h
  | ok o =>
    obtain ⟨fs, place, n⟩ := o
    cases n with
    | file number mode old =>
      by_cases live : number ∈ w.live
      · rw [acquire_of_live opened live] at h
        cases h
      · rw [acquire_of_idle opened live] at h
        cases h
        have leads := (FileSystem.openToWrite_eq_ok opened).1
        have file := FileSystem.get?_of_node? leads
        refine ⟨rfl, ?_, live, rfl, ?_, ?_, ?_⟩
        · obtain ⟨-, rfl | ⟨-, new, -⟩⟩ := FileSystem.openToWrite_eq_ok opened
          · exact .inl ⟨old, place, mode, leads⟩
          · cases new
            exact .inr rfl
        · have there : (fs.put place (.file number mode (content process))).node? path = _ :=
            FileSystem.node?_put_of_file leads file
          rw [if_pos rfl] at there
          exact ⟨place, mode, there⟩
        · intro numbered
          have given := numbered.openToWrite opened
          refine given.put (Nat.le_refl fs.next) fun k bits more same => ?_
          cases same
          exact given place number mode old file
        · intro other k bytes apart before
          exact (before.openToWrite opened).put_file file apart
    | _ => simp [acquire, opened] at h

/-- A lock that is not acquired changes nothing. -/
theorem acquire_eq_error (given : ∀ number ∈ w.live, number < w.files.next)
    (h : acquire process path w = (w', .error e)) : w' = w := by
  cases opened : w.files.openToWrite path with
  | error e =>
    simp only [acquire, opened] at h
    cases h
    rfl
  | ok o =>
    obtain ⟨fs, place, n⟩ := o
    obtain ⟨-, rfl | ⟨-, rfl, rfl⟩⟩ := FileSystem.openToWrite_eq_ok opened
    · cases n with
      | file number mode old =>
        by_cases live : number ∈ w.live
        · rw [acquire_of_live opened live] at h
          cases h
          rfl
        · rw [acquire_of_idle opened live] at h
          cases h
      | _ =>
        simp only [acquire, opened] at h
        cases h
        rfl
    · -- Nobody has a lock on a file that has just been created.
      have idle : w.files.next ∉ w.live := fun live => Nat.lt_irrefl _ (given _ live)
      rw [acquire_of_idle opened idle] at h
      cases h

end RunLock

/-! ## Locks of many processes -/

/-- What happens to locks. -/
inductive LockEvent where
  | acquire (process : Nat) (path : Path)
  | drop (process : Nat) (lock : RunLock)
  /-- A process ends in whatever way. Its locks are gone with it. -/
  | death (process : Nat)

/-- Locked files, and the locks on them with the processes that hold them. -/
structure LockTable where
  world : LockedFiles
  held : List (Nat × RunLock)

namespace LockTable

/-- Some process holds a lock on the file of a number. -/
def Locks (t : LockTable) (number : Nat) : Prop :=
  ∃ h ∈ t.held, h.2.file = number

instance (t : LockTable) (number : Nat) : Decidable (t.Locks number) :=
  inferInstanceAs (Decidable (∃ h ∈ t.held, h.2.file = number))

/-- What is so after an event. Only a lock that is held can be dropped. -/
def after (t : LockTable) : LockEvent → LockTable
  | .acquire process path =>
    match RunLock.acquire process path t.world with
    | (world, .ok lock) => ⟨world, (process, lock) :: t.held⟩
    | (world, .error _) => ⟨world, t.held⟩
  | .drop process lock =>
    if (process, lock) ∈ t.held then
      ⟨lock.release t.world, t.held.filter fun h => h ≠ (process, lock)⟩
    else t
  | .death process =>
    let left : LockTable := ⟨t.world, t.held.filter fun h => h.1 ≠ process⟩
    { left with world.live := t.world.live.filter fun number => left.Locks number }

/-- Files on which nobody holds a lock. -/
def unlocked (files : FileSystem) : LockTable := ⟨⟨files, []⟩, []⟩

/-- What is so after events, one after the other. -/
def afterAll (t : LockTable) (events : List LockEvent) : LockTable :=
  events.foldl after t

/-- The locks are on different files, and each file holds the number of its lock's process. -/
structure Sound (t : LockTable) : Prop where
  numbered : t.world.files.Numbered
  once : t.world.live.Nodup
  live_iff : ∀ number, number ∈ t.world.live ↔ t.Locks number
  apart : (t.held.map fun h => h.2.file).Nodup
  holds : ∀ h ∈ t.held, t.world.files.Leads h.2.path h.2.file (RunLock.content h.1)

variable {t : LockTable}

theorem sound_unlocked {files : FileSystem} (numbered : files.Numbered) :
    (unlocked files).Sound where
  numbered := numbered
  once := List.nodup_nil
  live_iff := by simp [unlocked, Locks]
  apart := List.nodup_nil
  holds := by simp [unlocked]

/-- A file that is locked has a number that has been given out. -/
theorem Sound.lt_next (sound : t.Sound) (number : Nat) (live : number ∈ t.world.live) :
    number < t.world.files.next := by
  obtain ⟨h, held, rfl⟩ := (sound.live_iff number).1 live
  exact sound.numbered.lt_next (sound.holds h held)

/-- Two locks on one file are the same. -/
theorem Sound.eq_of_file_eq (sound : t.Sound) {h h' : Nat × RunLock} (held : h ∈ t.held)
    (held' : h' ∈ t.held) (same : h.2.file = h'.2.file) : h = h' :=
  List.inj_on_of_nodup_map sound.apart held held' same

theorem Sound.acquire (sound : t.Sound) (process : Nat) (path : Path) :
    (t.after (.acquire process path)).Sound := by
  rcases result : RunLock.acquire process path t.world with ⟨world, e | lock⟩
  · have same : world = t.world := RunLock.acquire_eq_error sound.lt_next result
    have after_eq : t.after (.acquire process path) = t := by
      simp only [after, result, same]
    rw [after_eq]
    exact sound
  · have acquired := RunLock.acquire_eq_ok result
    have after_eq : t.after (.acquire process path) = ⟨world, (process, lock) :: t.held⟩ := by
      simp only [after, result]
    have other (h : Nat × RunLock) (held : h ∈ t.held) : h.2.file ≠ lock.file := by
      intro same
      exact acquired.idle ((sound.live_iff lock.file).2 ⟨h, held, same⟩)
    rw [after_eq]
    constructor
    · exact acquired.numbered sound.numbered
    · rw [acquired.live_eq]
      exact sound.once.cons acquired.idle
    · intro number
      have before := sound.live_iff number
      simp only [Locks, acquired.live_eq, List.mem_cons, before, exists_eq_or_imp, eq_comm]
    · refine List.nodup_cons.2 ⟨?_, sound.apart⟩
      intro locked
      obtain ⟨h, held, same⟩ := List.mem_map.1 locked
      exact other h held same
    · intro h held
      rcases List.mem_cons.1 held with rfl | held
      · rw [acquired.path_eq]
        exact acquired.holds
      · exact acquired.keeps h.2.path h.2.file _ (other h held) (sound.holds h held)

theorem Sound.drop (sound : t.Sound) (process : Nat) (lock : RunLock) :
    (t.after (.drop process lock)).Sound := by
  by_cases held : (process, lock) ∈ t.held
  · have after_eq : t.after (.drop process lock) =
        ⟨lock.release t.world, t.held.filter fun h => h ≠ (process, lock)⟩ := if_pos held
    have left_iff (h : Nat × RunLock) : h ∈ t.held.filter (fun h => h ≠ (process, lock)) ↔
        h ∈ t.held ∧ h.2.file ≠ lock.file := by
      rw [List.mem_filter, decide_eq_true_iff]
      refine and_congr_right fun held' => not_congr ⟨?_, sound.eq_of_file_eq held' held⟩
      rintro rfl
      rfl
    rw [after_eq]
    constructor
    · exact sound.numbered.truncate lock.file
    · exact sound.once.erase lock.file
    · intro number
      simp only [Locks, RunLock.release, left_iff, sound.once.mem_erase_iff, sound.live_iff]
      constructor
      · rintro ⟨away, h, held, rfl⟩
        exact ⟨h, ⟨held, away⟩, rfl⟩
      · rintro ⟨h, ⟨held, away⟩, rfl⟩
        exact ⟨away, h, held, rfl⟩
    · exact sound.apart.sublist (List.filter_sublist.map _)
    · intro h left
      obtain ⟨held, away⟩ := (left_iff h).1 left
      have there := (sound.holds h held).truncate lock.file
      rwa [if_neg away] at there
  · have after_eq : t.after (.drop process lock) = t := if_neg held
    rw [after_eq]
    exact sound

theorem Sound.death (sound : t.Sound) (process : Nat) : (t.after (.death process)).Sound where
  numbered := sound.numbered
  once := sound.once.filter _
  live_iff := by
    intro number
    simp only [after, List.mem_filter, decide_eq_true_iff, sound.live_iff]
    refine ⟨And.right, fun locked => ⟨?_, locked⟩⟩
    obtain ⟨h, left, same⟩ := locked
    exact ⟨h, (List.mem_filter.1 left).1, same⟩
  apart := sound.apart.sublist (List.filter_sublist.map _)
  holds h left := sound.holds h (List.mem_filter.1 left).1

/-- No event gives two locks on a file, or takes a locked file what it holds. -/
theorem Sound.after (sound : t.Sound) (event : LockEvent) : (t.after event).Sound := by
  cases event with
  | acquire process path => exact sound.acquire process path
  | drop process lock => exact sound.drop process lock
  | death process => exact sound.death process

theorem Sound.afterAll (sound : t.Sound) (events : List LockEvent) : (t.afterAll events).Sound := by
  induction events generalizing t with
  | nil => exact sound
  | cons event events ih => exact ih (sound.after event)

/-- Whatever the files held at first, and whatever has happened to locks: locks are on different
files, and each of these holds the number of its lock's process; a regular file that can be opened
is refused, and nothing changed, just when it is locked, and else is locked whatever it holds; a
file whose lock is dropped is there, and empty. A device that can be opened holds no bytes and is no
such file (`RunLock.acquire_of_device`). -/
theorem locks_exclude (files : FileSystem) (numbered : files.Numbered) (events : List LockEvent) :
    let t := (unlocked files).afterAll events
    (t.held.map fun h => h.2.file).Nodup ∧
      (∀ number, number ∈ t.world.live ↔ t.Locks number) ∧
      (∀ h ∈ t.held, t.world.files.Leads h.2.path h.2.file (RunLock.content h.1)) ∧
      (∀ process path fs place number mode bytes,
        t.world.files.openToWrite path = .ok (fs, place, .file number mode bytes) →
        let t' := t.after (.acquire process path)
        if t.Locks number then
          RunLock.acquire process path t.world = (t.world, .error (.held path)) ∧ t' = t
        else
          (RunLock.acquire process path t.world).2 = .ok ⟨path, number⟩ ∧
            t'.held = (process, ⟨path, number⟩) :: t.held ∧
            t'.world.files.Leads path number (RunLock.content process)) ∧
      ∀ h ∈ t.held,
        let t' := t.after (.drop h.1 h.2)
        ¬ t'.Locks h.2.file ∧ t'.world.files.Leads h.2.path h.2.file .empty := by
  intro t
  have sound : t.Sound := (sound_unlocked numbered).afterAll events
  refine ⟨sound.apart, sound.live_iff, sound.holds, ?_, ?_⟩
  · intro process path fs place number mode bytes opened
    split
    · rename_i locked
      have live := (sound.live_iff number).2 locked
      have refused : RunLock.acquire process path t.world = (_, .error (.held path)) :=
        RunLock.acquire_of_live opened live
      rw [RunLock.acquire_eq_error sound.lt_next refused] at refused
      refine ⟨refused, ?_⟩
      simp only [after, refused]
    · rename_i locked
      have idle := mt (sound.live_iff number).1 locked
      have acquired : RunLock.acquire process path t.world = (_, .ok ⟨path, number⟩) :=
        RunLock.acquire_of_idle opened idle
      simp only [after, acquired, true_and]
      exact (RunLock.acquire_eq_ok acquired).holds
  · intro h held
    have after_eq : t.after (.drop h.1 h.2) =
        ⟨h.2.release t.world, t.held.filter fun h' => h' ≠ h⟩ := if_pos held
    rw [after_eq]
    constructor
    · rintro ⟨h', left, same⟩
      obtain ⟨held', other⟩ := List.mem_filter.1 left
      exact of_decide_eq_true other (sound.eq_of_file_eq held' held same)
    · have there := (sound.holds h held).truncate h.2.file
      rwa [if_pos rfl] at there

/-- A folder with one file. -/
def oneLock (bytes : ByteArray) : FileSystem :=
  { FileSystem.bare.put ["lock"] (.file 0 newFileMode bytes) with next := 1 }

theorem numbered_oneLock (bytes : ByteArray) : (oneLock bytes).Numbered := by
  refine FileSystem.numbered_bare.put (Nat.zero_le 1) fun number mode more same => ?_
  cases same
  exact Nat.zero_lt_one

theorem openToWrite_oneLock (bytes : ByteArray) : (oneLock bytes).openToWrite ⟨"lock"⟩ =
    .ok (oneLock bytes, ["lock"], .file 0 newFileMode bytes) := by
  have put := FileSystem.flat_bare.put_file "lock" 0 newFileMode bytes
  have flat : (oneLock bytes).Flat := ⟨put.home, put.root, put.files⟩
  exact FileSystem.openToWrite_of_node? (flat.node?_of_isName (by decide) rfl)

theorem acquire_oneLock (process : Nat) (bytes : ByteArray) :
    RunLock.acquire process ⟨"lock"⟩ ⟨oneLock bytes, []⟩ =
      (⟨oneLock (RunLock.content process), [0]⟩, .ok ⟨⟨"lock"⟩, 0⟩) := by
  rw [RunLock.acquire_of_idle (openToWrite_oneLock bytes) List.not_mem_nil]
  simp [FileSystem.put, FileSystem.bare, oneLock]

/-- A file is locked over what a dead process has left in it, refused to another process, and empty
once the lock has been dropped. -/
theorem locks_exclude_leftover :
    let files := oneLock "999\n".toUTF8
    let t := (unlocked files).afterAll [.acquire 7 ⟨"lock"⟩, .death 7, .acquire 8 ⟨"lock"⟩]
    files.Numbered ∧ t.held = [(8, ⟨⟨"lock"⟩, 0⟩)] ∧
      RunLock.acquire 9 ⟨"lock"⟩ t.world = (t.world, .error (.held ⟨"lock"⟩)) ∧
      t.world.files.Leads ⟨"lock"⟩ 0 (RunLock.content 8) ∧
      (t.after (.drop 8 ⟨⟨"lock"⟩, 0⟩)).world.files.Leads ⟨"lock"⟩ 0 .empty := by
  intro files t
  have numbered : files.Numbered := numbered_oneLock "999\n".toUTF8
  let holding : LockTable := ⟨⟨oneLock (RunLock.content 7), [0]⟩, [(7, ⟨⟨"lock"⟩, 0⟩)]⟩
  have first : (unlocked files).after (.acquire 7 ⟨"lock"⟩) = holding := by
    simp only [holding, after, unlocked, files, acquire_oneLock]
  have dead : holding.after (.death 7) = ⟨⟨oneLock (RunLock.content 7), []⟩, []⟩ := by
    simp [holding, after, Locks]
  have now : t = ⟨⟨oneLock (RunLock.content 8), [0]⟩, [(8, ⟨⟨"lock"⟩, 0⟩)]⟩ := by
    simp only [t, afterAll, List.foldl, first, dead]
    simp only [after, acquire_oneLock]
  obtain ⟨-, -, holds, opens, drops⟩ :=
    locks_exclude files numbered [.acquire 7 ⟨"lock"⟩, .death 7, .acquire 8 ⟨"lock"⟩]
  have held : (8, ⟨⟨"lock"⟩, 0⟩) ∈ t.held := by simp [now]
  have refused := opens 9 ⟨"lock"⟩ (oneLock (RunLock.content 8)) ["lock"] 0 newFileMode
    (RunLock.content 8) (by rw [show afterAll _ _ = t from rfl, now]; exact openToWrite_oneLock _)
  rw [if_pos ⟨_, held, rfl⟩] at refused
  exact ⟨numbered, by rw [now], refused.1, holds _ held, (drops _ held).2⟩

end LockTable

end CoreTrial
