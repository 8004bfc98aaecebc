import CoreTrial.Gateway.Script
import Mathlib.Data.List.Forall2

/-!
# How a tool script is read

A script is read as commands of words. A newline or a semicolon ends a command, blanks stand
between words. A word that begins with a brace runs to the matching brace; within it a backslash
hides the next character, and nothing else has a meaning. A word in brackets is a command of its
own. What is read are words that stand for themselves: a script with a variable, a quoted word, a
comment or a backslash outside of braces is refused, and so is a line within braces that a
backslash joins to the next one.
-/

set_option autoImplicit false

namespace CoreTrial.Script

/-- A word of a command, or a mark of a command within it. -/
inductive Token where
  /-- The text between two braces. -/
  | braced (text : List Char)
  | bare (text : List Char)
  /-- A bracket that opens a command. -/
  | opening
  /-- A bracket that closes a command. -/
  | closing
  deriving DecidableEq, Repr

/-- How a text between braces is read: how many more braces are open, and whether the last
character hides the next one. -/
structure Braces where
  depth : Nat
  hides : Bool
  deriving DecidableEq, Repr

/-- Reads one character between braces, but not the brace that ends the text. -/
def Braces.next (b : Braces) (c : Char) : Option Braces :=
  if b.hides then if c = '\n' then none else some ⟨b.depth, false⟩
  else if c = '\\' then some ⟨b.depth, true⟩
  else if c = '\x7b' then some ⟨b.depth + 1, false⟩
  else if c = '\x7d' then if b.depth = 0 then none else some ⟨b.depth - 1, false⟩
  else some b

/-- Right behind the brace that starts a text. -/
def Braces.first : Braces := ⟨0, false⟩

/-- Each brace of a text has its other one, as far as none is hidden, and its end is not hidden. -/
def Closed (text : List Char) : Prop :=
  text.foldlM Braces.next .first = some .first

instance : DecidablePred Closed := fun _ => inferInstanceAs (Decidable (_ = _))

/-- Stands between words. -/
def isBlank (c : Char) : Bool :=
  c == ' ' || c == '\t' || c == '\r' || c == '\x0b' || c == '\x0c'

/-- Ends a command. -/
def endsCommand (c : Char) : Bool :=
  c == '\n' || c == ';'

/-- Ends a word without braces. -/
def endsWord (c : Char) : Bool :=
  isBlank c || endsCommand c || c == ']'

/-- Stands for itself in a word without braces. -/
def isBare (c : Char) : Bool :=
  !endsWord c && c != '[' && c != '$' && c != '\\'

/-- Begins a word that is not in braces or quotes and no comment. -/
def beginsBare (c : Char) : Bool :=
  isBare c && c != '\x7b' && c != '"' && c != '#'

/-- A text that is a word without braces. -/
def Bare (text : List Char) : Prop :=
  ∃ c rest, text = c :: rest ∧ beginsBare c = true ∧ ∀ d ∈ rest, isBare d = true

/-- What is being read. -/
inductive Mode where
  /-- A word may begin. -/
  | gap
  /-- A word without braces; what was read of it stands backwards. -/
  | bare (text : List Char)
  | braced (scan : Braces) (text : List Char)
  /-- A word was closed, and something has to stand between it and the next one. -/
  | closed
  deriving DecidableEq, Repr

/-- How far a script is read: its commands, the words of the one that goes on, and how many
brackets are open in it. -/
structure Reading where
  commands : List (List Token)
  tokens : List Token
  depth : Nat
  mode : Mode
  deriving DecidableEq, Repr

namespace Reading

/-- One more word was read. -/
def add (r : Reading) (t : Token) (mode : Mode) : Reading :=
  { r with tokens := r.tokens ++ [t], mode := mode }

/-- Reads what stands between words. Brackets are closed on the line on which they are opened. -/
def separate (r : Reading) (c : Char) : Option Reading :=
  if isBlank c then some { r with mode := .gap }
  else if endsCommand c then
    if r.depth ≠ 0 then none
    else if r.tokens = [] then some { r with mode := .gap }
    else some ⟨r.commands ++ [r.tokens], [], 0, .gap⟩
  else if c = ']' ∧ r.depth ≠ 0 then some { r.add .closing .closed with depth := r.depth - 1 }
  else none

/-- Reads the first character of a word. -/
def begin (r : Reading) (c : Char) : Option Reading :=
  if c = '\x7b' then some { r with mode := .braced .first [] }
  else if c = '[' then some { r.add .opening .gap with depth := r.depth + 1 }
  else if beginsBare c then some { r with mode := .bare [c] }
  else none

/-- Reads one character. -/
def next (r : Reading) (c : Char) : Option Reading :=
  match r.mode with
  | .gap => if endsWord c then r.separate c else r.begin c
  | .bare text =>
    if endsWord c then (r.add (.bare text.reverse) .closed).separate c
    else if isBare c then some { r with mode := .bare (c :: text) }
    else none
  | .braced scan text =>
    if c = '\x7d' ∧ scan = .first then some (r.add (.braced text.reverse) .closed)
    else (scan.next c).map fun scan => { r with mode := .braced scan (c :: text) }
  | .closed => r.separate c

/-- Reads a text. -/
def read (r : Reading) (text : List Char) : Option Reading :=
  text.foldlM next r

/-- Some commands were read. -/
def past (commands : List (List Token)) : Reading :=
  ⟨commands, [], 0, .gap⟩

end Reading

/-- The commands of a script, of which the last one is ended like all others. -/
def commands? (script : String) : Option (List (List Token)) :=
  ((Reading.past []).read script.toList).bind fun r =>
    if r = .past r.commands then some r.commands else none

namespace Reading

variable {r r' : Reading} {s t : List Char}

theorem read_nil (r : Reading) : r.read [] = some r := rfl

theorem read_cons (r : Reading) (c : Char) (s : List Char) :
    r.read (c :: s) = (r.next c).bind (·.read s) := rfl

theorem read_append (r : Reading) (s t : List Char) :
    r.read (s ++ t) = (r.read s).bind (·.read t) :=
  List.foldlM_append

theorem read_of_read (h : r.read s = some r') (t : List Char) : r.read (s ++ t) = r'.read t := by
  rw [read_append, h, Option.bind_some]

/-- Between braces a text is read as it stands. -/
theorem read_within {scan scan' : Braces} {text : List Char}
    (h : t.foldlM Braces.next scan = some scan') :
    ({ r with mode := .braced scan text } : Reading).read t =
      some { r with mode := .braced scan' (t.reverse ++ text) } := by
  induction t generalizing scan text with
  | nil =>
    cases h
    rfl
  | cons c t ih =>
    obtain ⟨between, first, rest⟩ := Option.bind_eq_some_iff.1 h
    have inside : ¬ (c = '\x7d' ∧ scan = .first) := by
      rintro ⟨rfl, rfl⟩
      cases first
    rw [read_cons]
    simp only [next, if_neg inside, first, Option.map_some, Option.bind_some]
    rw [List.reverse_cons, List.append_assoc]
    exact ih rest

/-- A closed text in braces is one word. -/
theorem read_braced (gap : r.mode = .gap) (closed : Closed t) :
    r.read ('\x7b' :: (t ++ ['\x7d'])) = some (r.add (.braced t) .closed) := by
  have opened : r.next '\x7b' = some { r with mode := .braced .first [] } := by
    simp only [next, gap]
    rfl
  rw [read_cons, opened, Option.bind_some, read_of_read (read_within closed), List.append_nil,
    read_cons]
  simp only [next, and_self, if_true, List.reverse_reverse, Option.bind_some]
  rfl

theorem endsWord_of_isBare {c : Char} (h : isBare c = true) : endsWord c = false := by
  unfold isBare at h
  simp only [Bool.and_eq_true, Bool.not_eq_true'] at h
  exact h.1.1.1

theorem read_inBare {text : List Char} (h : ∀ c ∈ t, isBare c = true) :
    ({ r with mode := .bare text } : Reading).read t =
      some { r with mode := .bare (t.reverse ++ text) } := by
  induction t generalizing text with
  | nil => rfl
  | cons c t ih =>
    have bare := h c List.mem_cons_self
    rw [read_cons]
    simp only [next, endsWord_of_isBare bare, bare, Bool.false_eq_true, if_false, if_true,
      Option.bind_some]
    rw [List.reverse_cons, List.append_assoc]
    exact ih fun d mem => h d (List.mem_cons_of_mem _ mem)

theorem read_bare (gap : r.mode = .gap) (bare : Bare t) :
    r.read t = some { r with mode := .bare t.reverse } := by
  obtain ⟨c, rest, rfl, first, others⟩ := bare
  have begins := first
  simp only [beginsBare, Bool.and_eq_true, bne_iff_ne, ne_eq] at begins
  obtain ⟨⟨⟨bare, brace⟩, -⟩, -⟩ := begins
  have bracket : c ≠ '[' := by
    rintro rfl
    cases bare
  have opened : r.next c = some { r with mode := .bare [c] } := by
    simp only [next, gap, begin, endsWord_of_isBare bare, brace, bracket, first,
      Bool.false_eq_true, if_false, if_true]
  rw [read_cons, opened, Option.bind_some, List.reverse_cons]
  exact read_inBare others

end Reading

section Sound

/-- The text of a word is one that is read as such. -/
def Token.Sound : Token → Prop
  | .braced text => Closed text
  | .bare text => Bare text
  | .opening => True
  | .closing => True

/-- What was read of a word is what one may begin with. -/
def Mode.Sound : Mode → Prop
  | .gap => True
  | .bare text => Bare text.reverse
  | .braced scan text => text.reverse.foldlM Braces.next .first = some scan
  | .closed => True

/-- All that was read is sound. -/
structure Reading.Sound (r : Reading) : Prop where
  commands : ∀ c ∈ r.commands, ∀ t ∈ c, t.Sound
  tokens : ∀ t ∈ r.tokens, t.Sound
  mode : r.mode.Sound

theorem Bare.concat {text : List Char} {c : Char} (h : Bare text) (bare : isBare c = true) :
    Bare (text ++ [c]) := by
  obtain ⟨first, rest, rfl, begins, others⟩ := h
  refine ⟨first, rest ++ [c], rfl, begins, ?_⟩
  rw [List.forall_mem_append, List.forall_mem_singleton]
  exact ⟨others, bare⟩

namespace Reading.Sound

variable {r r' : Reading} {c : Char}

theorem add (h : r.Sound) (t : Token) (mode : Mode) (token : t.Sound) (sound : mode.Sound) :
    (r.add t mode).Sound where
  commands := h.commands
  tokens := by
    rw [Reading.add, List.forall_mem_append, List.forall_mem_singleton]
    exact ⟨h.tokens, token⟩
  mode := sound

theorem separate (h : r.Sound) (step : r.separate c = some r') : r'.Sound := by
  unfold Reading.separate at step
  split at step
  · cases step
    exact ⟨h.commands, h.tokens, trivial⟩
  split at step
  · split at step
    · cases step
    split at step
    · cases step
      exact ⟨h.commands, h.tokens, trivial⟩
    · cases step
      refine ⟨?_, fun _ none => absurd none List.not_mem_nil, trivial⟩
      rw [List.forall_mem_append, List.forall_mem_singleton]
      exact ⟨h.commands, h.tokens⟩
  split at step
  · cases step
    have added := h.add .closing .closed trivial trivial
    exact ⟨added.commands, added.tokens, added.mode⟩
  · cases step

theorem begin (h : r.Sound) (step : r.begin c = some r') : r'.Sound := by
  unfold Reading.begin at step
  split at step
  · cases step
    exact ⟨h.commands, h.tokens, rfl⟩
  split at step
  · cases step
    have added := h.add .opening .gap trivial trivial
    exact ⟨added.commands, added.tokens, added.mode⟩
  split at step
  · rename_i begins
    cases step
    exact ⟨h.commands, h.tokens, c, [], rfl, begins, fun _ none => absurd none List.not_mem_nil⟩
  · cases step

/-- One character keeps what was read sound. -/
theorem next (h : r.Sound) (step : r.next c = some r') : r'.Sound := by
  have inMode := h.mode
  unfold Reading.next at step
  cases mode : r.mode with
  | gap =>
    simp only [mode] at step
    split at step
    · exact h.separate step
    · exact h.begin step
  | bare text =>
    rw [mode] at inMode
    simp only [mode] at step
    split at step
    · exact (h.add (.bare text.reverse) .closed inMode trivial).separate step
    split at step
    · rename_i bare
      cases step
      refine ⟨h.commands, h.tokens, ?_⟩
      rw [Mode.Sound, List.reverse_cons]
      exact Bare.concat inMode bare
    · cases step
  | braced scan text =>
    rw [mode] at inMode
    simp only [mode] at step
    split at step
    · rename_i ends
      obtain ⟨-, rfl⟩ := ends
      cases step
      exact h.add (.braced text.reverse) .closed inMode trivial
    · obtain ⟨scan', scanned, rfl⟩ := Option.map_eq_some_iff.1 step
      refine ⟨h.commands, h.tokens, ?_⟩
      change (text.reverse.foldlM Braces.next .first) = some scan at inMode
      rw [Mode.Sound, List.reverse_cons, List.foldlM_append, inMode]
      exact congrArg (Option.bind · pure) scanned
  | closed =>
    simp only [mode] at step
    exact h.separate step

theorem read (h : r.Sound) {s : List Char} (run : r.read s = some r') : r'.Sound := by
  induction s generalizing r with
  | nil =>
    cases run
    exact h
  | cons c s ih =>
    obtain ⟨between, first, rest⟩ := Option.bind_eq_some_iff.1 run
    exact ih (h.next first) rest

end Reading.Sound

/-- Whatever a script is, a word that is read in braces is closed, and one without them is bare. -/
theorem sound_of_commands? {script : String} {commands : List (List Token)}
    (h : commands? script = some commands) : ∀ c ∈ commands, ∀ t ∈ c, t.Sound := by
  obtain ⟨r, run, ended⟩ := Option.bind_eq_some_iff.1 h
  have start : (Reading.past []).Sound :=
    ⟨fun _ none => absurd none List.not_mem_nil, fun _ none => absurd none List.not_mem_nil,
      trivial⟩
  split at ended
  · cases ended
    exact (start.read run).commands
  · cases ended

end Sound

end CoreTrial.Script
