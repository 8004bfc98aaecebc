import CoreTrial.Proofs.FileSystem.Flat
import CoreTrial.Proofs.Lock.Exclusion
import CoreTrial.Proofs.Patch.Halves
import CoreTrial.Proofs.Patch.Repetition

/-!
# Taking turns at a source

Processes patch one source under one lock. Each of them acquires the lock, reads the source, writes
it, goes on to later stages, and ends or dies; between any two steps of one process others can take
theirs. A step keeps `Contest.Sound`: at most one process is past its acquisition, it holds the only
lock, and what it has read is still there. So every patch is cut from the text at first, and the one
that was made last is what the source holds.
-/

set_option autoImplicit false

namespace CoreTrial

/-- One source that processes patch under one lock. -/
structure Contest where
  lock : Path
  target : PatchTarget
  /-- What each process writes into the region of the source. -/
  entries : Nat → List String
  /-- What the stages after a patch can make of files. -/
  later : FileSystem → FileSystem → Prop

/-- How far a process has come. -/
inductive Standing where
  /-- It has yet to acquire the lock, or has ended. -/
  | outside
  | locked (lock : RunLock)
  /-- It has read a text and cut it. -/
  | prepared (lock : RunLock) (content : String) (cut : MarkedText)
  | patched (lock : RunLock)

/-- The lock that a process holds. -/
def Standing.lock? : Standing → Option RunLock
  | .outside => none
  | .locked lock => some lock
  | .prepared lock _ _ => some lock
  | .patched lock => some lock

/-- The files, and how far each process has come. -/
structure Scene where
  world : LockedFiles
  standing : Nat → Standing

/-- The scene when a process has come somewhere in another world. -/
def Scene.move (s : Scene) (process : Nat) (world : LockedFiles) (now : Standing) : Scene :=
  ⟨world, Function.update s.standing process now⟩

theorem Scene.standing_move_self (s : Scene) (process : Nat) (world : LockedFiles)
    (now : Standing) : (s.move process world now).standing process = now := by
  simp [Scene.move]

theorem Scene.standing_move_of_ne (s : Scene) {process other : Nat} (away : other ≠ process)
    (world : LockedFiles) (now : Standing) :
    (s.move process world now).standing other = s.standing other := by
  simp [Scene.move, away]

/-- What a process does. -/
inductive Deed where
  | acquires
  | isRefused (cause : LockError)
  | reads
  | patches
  | works
  | releases
  | crashes
  deriving DecidableEq

namespace Contest

/-- One step of a process. A process that is refused stays outside, and one that has a lock can end
at any time, as it does after a failure. -/
inductive Step (c : Contest) (process : Nat) (s : Scene) : Deed → Scene → Prop
  | acquires {world : LockedFiles} {lock : RunLock} (outside : s.standing process = .outside)
      (acquired : RunLock.acquire process c.lock s.world = (world, .ok lock)) :
      Step c process s .acquires (s.move process world (.locked lock))
  | isRefused {world : LockedFiles} {cause : LockError} (outside : s.standing process = .outside)
      (refused : RunLock.acquire process c.lock s.world = (world, .error cause)) :
      Step c process s (.isRefused cause) (s.move process world .outside)
  | reads {lock : RunLock} {content : String} {cut : MarkedText}
      (locked : s.standing process = .locked lock)
      (prepared : Patch.prepare s.world.files c.target (c.entries process) = .ok (content, cut)) :
      Step c process s .reads (s.move process s.world (.prepared lock content cut))
  | patches {lock : RunLock} {content : String} {cut : MarkedText} {files : FileSystem}
      {outcome : PatchOutcome} (prepared : s.standing process = .prepared lock content cut)
      (committed : Patch.commit s.world.files c.target content cut (c.entries process) =
        .ok (files, outcome)) :
      Step c process s .patches (s.move process { s.world with files := files } (.patched lock))
  | works {lock : RunLock} {files : FileSystem} (patched : s.standing process = .patched lock)
      (later : c.later s.world.files files) :
      Step c process s .works (s.move process { s.world with files := files } (.patched lock))
  | releases {lock : RunLock} (holds : (s.standing process).lock? = some lock) :
      Step c process s .releases (s.move process (lock.release s.world) .outside)
  | crashes {lock : RunLock} (holds : (s.standing process).lock? = some lock) :
      Step c process s .crashes
        (s.move process { s.world with live := s.world.live.erase lock.file } .outside)

/-- What processes have done one after the other, from files that nobody has locked. -/
inductive History (c : Contest) (start : FileSystem) : List (Nat × Deed) → Scene → Prop
  | start : History c start [] ⟨⟨start, []⟩, fun _ => .outside⟩
  | step {past : List (Nat × Deed)} {s s' : Scene} {process : Nat} {deed : Deed}
      (before : History c start past s) (step : c.Step process s deed s') :
      History c start (past ++ [(process, deed)]) s'

/-- The process that was the last to complete a patch. -/
def lastPatched (past : List (Nat × Deed)) : Option Nat :=
  (past.filterMap fun d => if d.2 = .patches then some d.1 else none).getLast?

theorem lastPatched_snoc (past : List (Nat × Deed)) (process : Nat) (deed : Deed) :
    lastPatched (past ++ [(process, deed)]) =
      if deed = .patches then some process else lastPatched past := by
  unfold lastPatched
  rw [List.filterMap_append]
  by_cases patches : deed = .patches
  · simp [patches]
  · simp [patches]

/-- The bytes of the source are those at first, or those with the entries of the process that has
patched it last. -/
def Source (c : Contest) (start : FileSystem) : Option Nat → ByteArray → Prop
  | none, bytes => start.readBytes c.target.path = .ok bytes
  | some process, bytes => ∃ m, Patch.check start c.target = .ok m ∧
      Patch.validate (c.entries process) c.target.endMarker = .ok () ∧
      bytes = (Region.splice m (c.entries process)).toUTF8

variable {c : Contest} {start files : FileSystem} {last : Option Nat} {s s' : Scene}
  {process : Nat} {deed : Deed} {lock : RunLock}

/-- The source is where it was, with the bytes that it should have, and is not the file that is
locked. -/
def Intact (c : Contest) (start : FileSystem) (last : Option Nat) (files : FileSystem) : Prop :=
  ∃ number bytes, files.Leads c.target.path number bytes ∧ c.Source start last bytes ∧
    ∀ other, ¬ files.Leads c.lock number other

/-- What a process has found or done is still so. -/
def Fits (c : Contest) (files : FileSystem) (last : Option Nat) (process : Nat) :
    Standing → Prop
  | .prepared _ content cut =>
    Patch.prepare files c.target (c.entries process) = .ok (content, cut)
  | .patched _ => last = some process
  | _ => True

/-- No process has a lock. -/
structure Idle (s : Scene) : Prop where
  outside : ∀ process, s.standing process = .outside
  live : s.world.live = []

/-- One process has the lock, and no other process has any. -/
structure Owned (c : Contest) (s : Scene) (process : Nat) (lock : RunLock) : Prop where
  holds : (s.standing process).lock? = some lock
  others : ∀ other, other ≠ process → s.standing other = .outside
  live : s.world.live = [lock.file]
  leads : ∃ bytes, s.world.files.Leads c.lock lock.file bytes

/-- What is so between any two steps. -/
structure Sound (c : Contest) (start : FileSystem) (last : Option Nat) (s : Scene) : Prop where
  numbered : s.world.files.Numbered
  intact : c.Intact start last s.world.files
  turn : Idle s ∨ ∃ process lock, c.Owned s process lock
  fits : ∀ process, c.Fits s.world.files last process (s.standing process)

/-- Stages that leave the source as it is and the file of the lock where it is. -/
structure Spares (c : Contest) (files files' : FileSystem) : Prop where
  numbered : files.Numbered → files'.Numbered
  source : ∀ number bytes, files.Leads c.target.path number bytes →
    files'.Leads c.target.path number bytes
  lock : ∀ number bytes, files.Leads c.lock number bytes →
    ∃ bytes', files'.Leads c.lock number bytes'

/-- A patch of the source as it is makes the source as it should be after that patch. -/
theorem Source.patched {bytes : ByteArray} {content : String} {cut : MarkedText}
    (source : c.Source start last bytes) (read : files.readBytes c.target.path = .ok bytes)
    (prepared : Patch.prepare files c.target (c.entries process) = .ok (content, cut)) :
    bytes = content.toUTF8 ∧
      c.Source start (some process) (Region.splice cut (c.entries process)).toUTF8 := by
  obtain ⟨valid, text, parsed⟩ := Patch.prepare_eq_ok_iff.1 prepared
  rw [FileSystem.readText_eq_ok_iff, read] at text
  cases text
  refine ⟨rfl, ?_⟩
  cases last with
  | none =>
    have original : start.readText c.target.path = .ok content :=
      FileSystem.readText_eq_ok_iff.2 source
    exact ⟨cut, Patch.check_eq_ok_iff.2 ⟨content, original, parsed⟩, valid, rfl⟩
  | some before =>
    -- What another process has written is cut where the text at first was.
    obtain ⟨m, found, fit, written⟩ := source
    obtain ⟨original, -, first⟩ := Patch.check_eq_ok_iff.1 found
    have same : content = Region.splice m (c.entries before) := String.toByteArray_inj.1 written
    rw [same, Patch.parseRegion_splice first fit] at parsed
    cases parsed
    exact ⟨m, found, valid, rfl⟩

/-- Once the path of the lock leads to another file, the source is not that file. -/
theorem not_leads_of_leads {number k : Nat} {bytes : ByteArray} (leads : files.Leads c.lock k bytes)
    (apart : number ≠ k) (other : ByteArray) : ¬ files.Leads c.lock number other := by
  intro same
  exact apart (same.unique leads).1

theorem Sound.owned (sound : c.Sound start last s)
    (holds : (s.standing process).lock? = some lock) : c.Owned s process lock := by
  rcases sound.turn with idle | ⟨owner, owned, own⟩
  · rw [idle.outside process] at holds
    cases holds
  · by_cases same : process = owner
    · subst same
      cases own.holds.symm.trans holds
      exact own
    · rw [own.others process same] at holds
      cases holds

/-- The process that has the lock finds the source and the file of the lock, which are two. -/
theorem Sound.places (sound : c.Sound start last s)
    (holds : (s.standing process).lock? = some lock) :
    ∃ number bytes old, s.world.files.Leads c.target.path number bytes ∧ c.Source start last bytes ∧
      s.world.files.Leads c.lock lock.file old ∧ number ≠ lock.file := by
  obtain ⟨number, bytes, leads, source, separate⟩ := sound.intact
  obtain ⟨old, lock_leads⟩ := (sound.owned holds).leads
  refine ⟨number, bytes, old, leads, source, lock_leads, ?_⟩
  rintro rfl
  exact separate old lock_leads

/-- A process can acquire the lock only while nobody has it. -/
theorem Sound.idle (sound : c.Sound start last s) {world : LockedFiles}
    (acquired : RunLock.acquire process c.lock s.world = (world, .ok lock)) : Idle s := by
  rcases sound.turn with idle | ⟨owner, owned, own⟩
  · exact idle
  · have new := RunLock.acquire_eq_ok acquired
    obtain ⟨bytes, leads⟩ := own.leads
    have same : owned.file = lock.file := by
      by_contra other
      have leads' := new.keeps c.lock owned.file bytes other leads
      exact other (leads'.unique new.holds).1
    have live : lock.file ∈ s.world.live := by
      rw [own.live, same]
      exact List.mem_singleton_self _
    exact absurd live new.idle

/-- A lock that is refused changes nothing. -/
theorem Sound.refused (sound : c.Sound start last s) {world : LockedFiles} {cause : LockError}
    (refused : RunLock.acquire process c.lock s.world = (world, .error cause)) :
    world = s.world := by
  refine RunLock.acquire_eq_error ?_ refused
  intro number live
  rcases sound.turn with idle | ⟨owner, owned, own⟩
  · rw [idle.live] at live
    cases live
  · rw [own.live, List.mem_singleton] at live
    obtain ⟨bytes, leads⟩ := own.leads
    rw [live]
    exact sound.numbered.lt_next leads

section Steps

variable {last' : Option Nat} {now : Standing} (sound : c.Sound start last s)
  (holds : (s.standing process).lock? = some lock) (numbered : files.Numbered)
  (intact : c.Intact start last' files)

include sound holds numbered intact

/-- The process that has the lock goes on to something else. -/
theorem Sound.goes_on (keeps : now.lock? = some lock)
    (leads : ∃ bytes, files.Leads c.lock lock.file bytes) (fits : c.Fits files last' process now) :
    c.Sound start last' (s.move process { s.world with files := files } now) := by
  have own := sound.owned holds
  have self := s.standing_move_self process { s.world with files := files } now
  have others (other : Nat) (away : other ≠ process) :=
    (s.standing_move_of_ne away { s.world with files := files } now).trans (own.others other away)
  constructor
  · exact numbered
  · exact intact
  · refine .inr ⟨process, lock, ?_, others, own.live, leads⟩
    rw [self]
    exact keeps
  · intro other
    by_cases same : other = process
    · rw [same, self]
      exact fits
    · rw [others other same]
      trivial

/-- The process that has the lock ends. -/
theorem Sound.ends :
    c.Sound start last' (s.move process ⟨files, s.world.live.erase lock.file⟩ .outside) := by
  have own := sound.owned holds
  let after := s.move process ⟨files, s.world.live.erase lock.file⟩ .outside
  have outside (other : Nat) : after.standing other = .outside := by
    unfold after
    by_cases same : other = process
    · rw [same, Scene.standing_move_self]
    · rw [s.standing_move_of_ne same, own.others other same]
  constructor
  · exact numbered
  · exact intact
  · refine .inl ⟨outside, ?_⟩
    change s.world.live.erase lock.file = []
    rw [own.live, List.erase_cons_head]
  · intro other
    rw [outside other]
    trivial

end Steps

theorem Sound.acquires (sound : c.Sound start last s) {world : LockedFiles}
    (acquired : RunLock.acquire process c.lock s.world = (world, .ok lock)) :
    c.Sound start last (s.move process world (.locked lock)) := by
  have idle := sound.idle acquired
  have new := RunLock.acquire_eq_ok acquired
  obtain ⟨number, bytes, leads, source, separate⟩ := sound.intact
  have apart : number ≠ lock.file := by
    rintro rfl
    rcases new.found with ⟨old, there⟩ | fresh
    · exact separate old there
    · exact Nat.ne_of_lt (sound.numbered.lt_next leads) fresh
  have self := s.standing_move_self process world (.locked lock)
  have others (other : Nat) (away : other ≠ process) :=
    (s.standing_move_of_ne away world (.locked lock)).trans (idle.outside other)
  constructor
  · exact new.numbered sound.numbered
  · exact ⟨number, bytes, new.keeps c.target.path number bytes apart leads, source,
      not_leads_of_leads new.holds apart⟩
  · refine .inr ⟨process, lock, ?_, others, ?_, RunLock.content process, new.holds⟩
    · rw [self]
      rfl
    · change world.live = [lock.file]
      rw [new.live_eq, idle.live]
  · intro other
    by_cases same : other = process
    · rw [same, self]
      trivial
    · rw [others other same]
      trivial

theorem Sound.patches (sound : c.Sound start last s) {content : String} {cut : MarkedText}
    {outcome : PatchOutcome} (prepared : s.standing process = .prepared lock content cut)
    (committed : Patch.commit s.world.files c.target content cut (c.entries process) =
      .ok (files, outcome)) :
    c.Sound start (some process)
      (s.move process { s.world with files := files } (.patched lock)) := by
  have holds : (s.standing process).lock? = some lock := by rw [prepared]; rfl
  have fits := sound.fits process
  rw [prepared] at fits
  obtain ⟨number, bytes, old, leads, source, lock_leads, apart⟩ := sound.places holds
  obtain ⟨same, source'⟩ := source.patched leads.readBytes fits
  rcases Patch.commit_eq_ok committed with ⟨unchanged, rfl⟩ | replaced
  · refine sound.goes_on holds sound.numbered ?_ rfl ⟨old, lock_leads⟩ rfl
    rw [unchanged, ← same] at source'
    exact ⟨number, bytes, leads, source', not_leads_of_leads lock_leads apart⟩
  · have lock_leads' := lock_leads.replace_other leads apart.symm replaced
    have fresh : s.world.files.next ≠ lock.file :=
      (Nat.ne_of_lt (sound.numbered.lt_next lock_leads)).symm
    refine sound.goes_on holds (sound.numbered.replace replaced) ?_ rfl ⟨old, lock_leads'⟩ rfl
    exact ⟨_, _, leads.replace replaced, source', not_leads_of_leads lock_leads' fresh⟩

theorem Sound.works (sound : c.Sound start last s)
    (patched : s.standing process = .patched lock) (spares : c.Spares s.world.files files) :
    c.Sound start last (s.move process { s.world with files := files } (.patched lock)) := by
  have holds : (s.standing process).lock? = some lock := by rw [patched]; rfl
  have fits := sound.fits process
  rw [patched] at fits
  obtain ⟨number, bytes, old, leads, source, lock_leads, apart⟩ := sound.places holds
  obtain ⟨new, lock_leads'⟩ := spares.lock lock.file old lock_leads
  refine sound.goes_on holds (spares.numbered sound.numbered) ?_ rfl ⟨new, lock_leads'⟩ fits
  exact ⟨number, bytes, spares.source number bytes leads, source,
    not_leads_of_leads lock_leads' apart⟩

theorem Sound.releases (sound : c.Sound start last s)
    (holds : (s.standing process).lock? = some lock) :
    c.Sound start last (s.move process (lock.release s.world) .outside) := by
  obtain ⟨number, bytes, old, leads, source, lock_leads, apart⟩ := sound.places holds
  have leads' := leads.truncate lock.file
  rw [if_neg apart] at leads'
  refine sound.ends holds (sound.numbered.truncate lock.file) ?_
  exact ⟨number, bytes, leads', source,
    not_leads_of_leads (lock_leads.truncate lock.file) apart⟩

/-- A process that was refused is where it was. -/
theorem move_outside (outside : s.standing process = .outside) :
    s.move process s.world .outside = s := by
  unfold Scene.move
  rw [← outside, Function.update_eq_self]

/-- Every step keeps what is so between two steps. -/
theorem Sound.step (sound : c.Sound start last s)
    (spares : ∀ files files', c.later files files' → c.Spares files files')
    (step : c.Step process s deed s') :
    c.Sound start (if deed = .patches then some process else last) s' := by
  cases step with
  | acquires outside acquired => exact sound.acquires acquired
  | isRefused outside refused =>
    rw [sound.refused refused, move_outside outside]
    exact sound
  | reads locked prepared =>
    have holds : (s.standing process).lock? = _ := congrArg Standing.lock? locked
    exact sound.goes_on holds sound.numbered sound.intact rfl (sound.owned holds).leads prepared
  | patches prepared committed => exact sound.patches prepared committed
  | works patched later => exact sound.works patched (spares _ _ later)
  | releases holds => exact sound.releases holds
  | crashes holds => exact sound.ends holds sound.numbered sound.intact

theorem sound_start {original : ByteArray} {number : Nat} (numbered : start.Numbered)
    (leads : start.Leads c.target.path number original)
    (separate : ∀ other, ¬ start.Leads c.lock number other) :
    c.Sound start none ⟨⟨start, []⟩, fun _ => .outside⟩ where
  numbered := numbered
  intact := ⟨number, original, leads, leads.readBytes, separate⟩
  turn := .inl ⟨fun _ => rfl, rfl⟩
  fits _ := trivial

theorem History.sound {past : List (Nat × Deed)} (history : c.History start past s)
    (spares : ∀ files files', c.later files files' → c.Spares files files')
    (sound : c.Sound start none ⟨⟨start, []⟩, fun _ => .outside⟩) :
    c.Sound start (lastPatched past) s := by
  induction history with
  | start => exact sound
  | step before step ih =>
    rw [lastPatched_snoc]
    exact ih.step spares step

/-- What the lock is for, after any deeds. -/
structure InTurn (c : Contest) (start : FileSystem) (past : List (Nat × Deed)) (s : Scene) :
    Prop where
  /-- The source is as it was at first, or as the last patch has left it. -/
  source : ∃ bytes, s.world.files.readBytes c.target.path = .ok bytes ∧
    c.Source start (lastPatched past) bytes
  /-- From its patch until it ends a process has the source to itself. -/
  undisturbed : ∀ process lock, s.standing process = .patched lock →
    lastPatched past = some process ∧
      ∀ other, other ≠ process → ∀ deed s', c.Step other s deed s' →
        s'.standing process = .patched lock ∧
          s'.world.files.readBytes c.target.path = s.world.files.readBytes c.target.path
  /-- A process that is refused changes nothing. -/
  refused : ∀ process cause s', c.Step process s (.isRefused cause) s' → s' = s

/-- While a process has the lock, others can only be refused. -/
theorem Sound.eq_of_step (sound : c.Sound start last s)
    (holds : (s.standing process).lock? = some lock) {other : Nat} (away : other ≠ process)
    (step : c.Step other s deed s') : s' = s := by
  have own := sound.owned holds
  have outside := own.others other away
  cases step with
  | acquires _ acquired =>
    have idle := sound.idle acquired
    rw [idle.outside process] at holds
    cases holds
  | isRefused _ refused => rw [sound.refused refused, move_outside outside]
  | reads locked => cases outside.symm.trans locked
  | patches prepared => cases outside.symm.trans prepared
  | works patched => cases outside.symm.trans patched
  | releases holds' =>
    rw [outside] at holds'
    cases holds'
  | crashes holds' =>
    rw [outside] at holds'
    cases holds'

/-! ## Two processes at one source -/

/-- A source and a lock file, of which the source was written last. -/
def sourceFirst (number : Nat) (source lock : ByteArray) : FileSystem :=
  let files := { FileSystem.bare.put ["lock"] (.file 0 newFileMode lock) with next := 1 }
  { files.put ["rom"] (.file number newFileMode source) with next := number + 1 }

/-- The same files, of which the lock file was written last. -/
def lockFirst (number : Nat) (source lock : ByteArray) : FileSystem :=
  let files := FileSystem.bare.put ["rom"] (.file number newFileMode source)
  { files.put ["lock"] (.file 0 newFileMode lock) with next := number + 1 }

theorem numbered_sourceFirst (number : Nat) (source lock : ByteArray) :
    (sourceFirst number source lock).Numbered := by
  refine FileSystem.Numbered.put ?_ (Nat.le_add_left 1 number) fun k mode bytes same => ?_
  · refine FileSystem.numbered_bare.put (Nat.zero_le 1) fun k mode bytes same => ?_
    cases same
    exact Nat.zero_lt_one
  · cases same
    exact Nat.lt_succ_self number

theorem flat_sourceFirst (number : Nat) (source lock : ByteArray) :
    (sourceFirst number source lock).Flat :=
  have put := (FileSystem.flat_bare.put_file "lock" 0 newFileMode lock).put_file "rom" number
    newFileMode source
  ⟨put.home, put.root, put.files⟩

theorem flat_lockFirst (number : Nat) (source lock : ByteArray) :
    (lockFirst number source lock).Flat :=
  have put := (FileSystem.flat_bare.put_file "rom" number newFileMode source).put_file "lock" 0
    newFileMode lock
  ⟨put.home, put.root, put.files⟩

theorem node?_sourceFirst (number : Nat) (source lock : ByteArray) :
    (sourceFirst number source lock).node? ⟨"rom"⟩ =
        .ok (["rom"], .file number newFileMode source) ∧
      (sourceFirst number source lock).node? ⟨"lock"⟩ = .ok (["lock"], .file 0 newFileMode lock) :=
  have flat := flat_sourceFirst number source lock
  ⟨flat.node?_of_isName (by decide) rfl, flat.node?_of_isName (by decide) rfl⟩

theorem node?_lockFirst (number : Nat) (source lock : ByteArray) :
    (lockFirst number source lock).node? ⟨"rom"⟩ = .ok (["rom"], .file number newFileMode source) ∧
      (lockFirst number source lock).node? ⟨"lock"⟩ = .ok (["lock"], .file 0 newFileMode lock) :=
  have flat := flat_lockFirst number source lock
  ⟨flat.node?_of_isName (by decide) rfl, flat.node?_of_isName (by decide) rfl⟩

theorem acquire_sourceFirst (process number : Nat) (source lock : ByteArray) :
    RunLock.acquire process ⟨"lock"⟩ ⟨sourceFirst number source lock, []⟩ =
      (⟨lockFirst number source (RunLock.content process), [0]⟩, .ok ⟨⟨"lock"⟩, 0⟩) := by
  have opened := FileSystem.openToWrite_of_node? (node?_sourceFirst number source lock).2
  rw [RunLock.acquire_of_idle opened List.not_mem_nil]
  simp [FileSystem.put, FileSystem.bare, sourceFirst, lockFirst]

theorem refuse_lockFirst (process number : Nat) (source lock : ByteArray) :
    RunLock.acquire process ⟨"lock"⟩ ⟨lockFirst number source lock, [0]⟩ =
      (⟨lockFirst number source lock, [0]⟩, .error (.held ⟨"lock"⟩)) :=
  RunLock.acquire_of_live (FileSystem.openToWrite_of_node? (node?_lockFirst number source lock).2)
    (List.mem_singleton_self 0)

theorem replace_lockFirst (number : Nat) (source lock more : ByteArray) :
    (lockFirst number source lock).replace ⟨"rom"⟩ more =
      .ok (sourceFirst (number + 1) more lock) := by
  have here : FileSystem.folderOf ⟨"rom"⟩ = ⟨"."⟩ := by decide +kernel
  have there : (lockFirst number source lock).get? ["rom"] =
      some (.file number newFileMode source) := rfl
  rw [(flat_lockFirst number source lock).replace (by decide) here there]
  simp [FileSystem.put, FileSystem.bare, sourceFirst, lockFirst]

/-- Processes that write their numbers into one source. -/
def numbering (later : FileSystem → FileSystem → Prop) : Contest where
  lock := ⟨"lock"⟩
  target := ⟨⟨"rom"⟩, "<<", ">>"⟩
  entries process := [String.ofList (Number.digits process)]
  later := later

/-- A source with an empty region. -/
def emptySource : ByteArray := "<<>>".toUTF8

/-- The source with the number of the first process. -/
def firstSource : ByteArray := "<<\n    1\n  >>".toUTF8

/-- While a process patches the source, another one is refused. -/
theorem history_numbering (later : FileSystem → FileSystem → Prop) :
    let past := [(1, .acquires), (2, .isRefused (.held ⟨"lock"⟩)), (1, .reads), (1, .patches)]
    ∃ s, (numbering later).History (sourceFirst 1 emptySource .empty) past s ∧
      s.standing 1 = .patched ⟨⟨"lock"⟩, 0⟩ ∧
      s.world.files = sourceFirst 2 firstSource (RunLock.content 1) := by
  intro past
  let c := numbering later
  let lock : RunLock := ⟨⟨"lock"⟩, 0⟩
  let cut : MarkedText := ⟨[], ['<', '<'], [], ['>', '>'], []⟩
  let world : LockedFiles := ⟨lockFirst 1 emptySource (RunLock.content 1), [0]⟩
  let start : Scene := ⟨⟨sourceFirst 1 emptySource .empty, []⟩, fun _ => .outside⟩
  let locked := start.move 1 world (.locked lock)
  let refused := locked.move 2 world .outside
  let prepared := refused.move 1 world (.prepared lock "<<>>" cut)
  let files := sourceFirst 2 firstSource (RunLock.content 1)
  have acquires : c.Step 1 start .acquires locked :=
    .acquires rfl (acquire_sourceFirst 1 1 emptySource .empty)
  have waits : locked.standing 2 = .outside := start.standing_move_of_ne (by decide) _ _
  have isRefused : c.Step 2 locked (.isRefused (.held ⟨"lock"⟩)) refused :=
    .isRefused waits (refuse_lockFirst 2 1 emptySource (RunLock.content 1))
  have goes_on : refused.standing 1 = .locked lock :=
    (locked.standing_move_of_ne (by decide) _ _).trans (start.standing_move_self 1 _ _)
  have valid : Patch.validate [String.ofList (Number.digits 1)] ">>" = .ok () := by decide
  have leads : world.files.Leads ⟨"rom"⟩ 1 emptySource := ⟨_, _, (node?_lockFirst _ _ _).1⟩
  have parsed : Patch.parseRegion "<<>>" "<<" ">>" ⟨"rom"⟩ = .ok cut := rfl
  have reads : c.Step 1 refused .reads prepared :=
    .reads goes_on (Patch.prepare_eq_ok_iff.2
      ⟨valid, FileSystem.readText_eq_ok_iff.2 leads.readBytes, parsed⟩)
  have written : world.files.replace ⟨"rom"⟩ firstSource = .ok files :=
    replace_lockFirst 1 emptySource (RunLock.content 1) firstSource
  let entries := [String.ofList (Number.digits 1)]
  have spliced : Region.splice cut entries = "<<\n    1\n  >>" := by decide
  have committed : Patch.commit world.files c.target "<<>>" cut entries =
      .ok (files, ⟨true, 1, (Region.splice cut entries).utf8ByteSize⟩) :=
    Patch.commit_of_replace (by decide) (spliced ▸ written)
  have patches : c.Step 1 prepared .patches (prepared.move 1 ⟨files, [0]⟩ (.patched lock)) :=
    .patches (refused.standing_move_self 1 _ _) committed
  refine ⟨prepared.move 1 ⟨files, [0]⟩ (.patched lock), ?_, prepared.standing_move_self 1 _ _, rfl⟩
  exact .step (.step (.step (.step .start acquires) isRefused) reads) patches

/-! ## Any number of processes -/

/-- Processes that patch one source under one lock, and whatever order their steps come in: if the
source is not the file of the lock, and later stages spare both, the source holds its first text or
that text with the entries of the last patch, no process disturbs another one after its patch, and
one that is refused changes nothing. -/
theorem runs_in_turn (c : Contest) {start : FileSystem} {number : Nat} {original : ByteArray}
    (numbered : start.Numbered) (leads : start.Leads c.target.path number original)
    (separate : ∀ other, ¬ start.Leads c.lock number other)
    (spares : ∀ files files', c.later files files' → c.Spares files files')
    {past : List (Nat × Deed)} {s : Scene} (history : c.History start past s) :
    c.InTurn start past s := by
  have sound := history.sound spares (sound_start numbered leads separate)
  constructor
  · obtain ⟨number, bytes, leads, source, -⟩ := sound.intact
    exact ⟨bytes, leads.readBytes, source⟩
  · intro process lock patched
    have fits := sound.fits process
    rw [patched] at fits
    refine ⟨fits, ?_⟩
    intro other away deed s' step
    have holds : (s.standing process).lock? = some lock := by rw [patched]; rfl
    have same := sound.eq_of_step holds away step
    rw [same]
    exact ⟨patched, rfl⟩
  · intro process cause s' step
    cases step with
    | isRefused outside refused => rw [sound.refused refused, move_outside outside]

/-- A process patches a source while another one is refused. -/
theorem runs_in_turn_numbering :
    let c := numbering fun files files' => files' = files
    let start := sourceFirst 1 emptySource .empty
    start.Numbered ∧ start.Leads c.target.path 1 emptySource ∧
      (∀ other, ¬ start.Leads c.lock 1 other) ∧
      (∀ files files', c.later files files' → c.Spares files files') ∧
      ∃ past s, c.History start past s ∧ lastPatched past = some 1 ∧
        s.standing 1 = .patched ⟨⟨"lock"⟩, 0⟩ ∧ c.InTurn start past s := by
  intro c start
  have numbered : start.Numbered := numbered_sourceFirst 1 emptySource .empty
  have leads : start.Leads c.target.path 1 emptySource := ⟨_, _, (node?_sourceFirst _ _ _).1⟩
  have lock_leads : start.Leads c.lock 0 .empty := ⟨_, _, (node?_sourceFirst _ _ _).2⟩
  have separate : ∀ other, ¬ start.Leads c.lock 1 other :=
    not_leads_of_leads lock_leads Nat.one_ne_zero
  have spares : ∀ files files', c.later files files' → c.Spares files files' := by
    rintro files _ rfl
    exact ⟨id, fun _ _ => id, fun _ bytes leads => ⟨bytes, leads⟩⟩
  obtain ⟨s, history, patched, -⟩ := history_numbering c.later
  exact ⟨numbered, leads, separate, spares, _, s, history, rfl, patched,
    runs_in_turn c numbered leads separate spares history⟩

/-- A lock on the source itself puts the number of a process in its place before any patch, and
later stages can write to the source after it. -/
theorem out_of_turn :
    let own : Contest := { numbering (fun _ _ => False) with lock := ⟨"rom"⟩ }
    let erasing := numbering fun files files' => files.write ⟨"rom"⟩ .empty = .ok files'
    let start := sourceFirst 1 emptySource .empty
    (∃ past s, own.History start past s ∧ ¬ own.InTurn start past s) ∧
      ∃ past s, erasing.History start past s ∧ ¬ erasing.InTurn start past s := by
  intro own erasing start
  have leads := (node?_sourceFirst 1 emptySource .empty).1
  have read : start.readBytes ⟨"rom"⟩ = .ok emptySource :=
    FileSystem.Leads.readBytes ⟨_, _, leads⟩
  constructor
  · -- The bytes of the source are those of the lock, and nobody has patched it.
    have opened := FileSystem.openToWrite_of_node? leads
    have acquired : RunLock.acquire 1 own.lock ⟨start, []⟩ = (_, .ok ⟨⟨"rom"⟩, 1⟩) :=
      RunLock.acquire_of_idle opened List.not_mem_nil
    refine ⟨_, _, .step .start (.acquires rfl acquired), fun turn => ?_⟩
    obtain ⟨bytes, now, first⟩ := turn.source
    have holds := (RunLock.acquire_eq_ok acquired).holds.readBytes
    cases now.symm.trans holds
    have same : RunLock.content 1 = emptySource := Except.ok.inj (first.symm.trans read)
    exact absurd (String.toByteArray_inj.1 same) (by decide)
  · obtain ⟨s, history, patched, files⟩ := history_numbering erasing.later
    have leads' := (node?_sourceFirst 2 firstSource (RunLock.content 1)).1
    let erased := (sourceFirst 2 firstSource (RunLock.content 1)).put ["rom"]
      (.file 2 newFileMode .empty)
    have writes : s.world.files.write ⟨"rom"⟩ .empty = .ok erased := by
      rw [files, FileSystem.write, FileSystem.openToWrite_of_node? leads']
    refine ⟨_, _, history.step (.works patched writes), fun turn => ?_⟩
    obtain ⟨bytes, now, m, found, -, written⟩ := turn.source
    have leads_erased : erased.node? ⟨"rom"⟩ = _ :=
      FileSystem.node?_put_of_file leads' (FileSystem.get?_of_node? leads')
    rw [if_pos rfl] at leads_erased
    cases now.symm.trans (FileSystem.Leads.readBytes ⟨_, _, leads_erased⟩)
    exact Patch.splice_ne_empty m _ (String.toByteArray_inj.1 written.symm)

end Contest

end CoreTrial
