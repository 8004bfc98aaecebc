import CoreTrial.Proofs.Number.Decimal
import CoreTrial.Proofs.Utilization.FirstEntry

/-!
# A written report is read back

An entry that is written as a report writes it is found whole, and what joins two entries starts no
key; so entries joined together are found one by one (`entriesFrom_intercalate`), after any line
without a colon. `written_report_is_read` says it of reports: the first share of a resource is what
is read of it, and a key that is only part of others has none.
-/

set_option autoImplicit false

namespace CoreTrial.Utilization

open Number

/-! ## Entries as they are written -/

/-- An entry as it is written: with a space after the colon, or without. -/
structure Written where
  key : List Char
  spaced : Bool
  digits : List Char

namespace Written

/-- What stands between the colon and the digits. -/
def space (w : Written) : List Char :=
  if w.spaced then [' '] else []

/-- The characters of an entry. -/
def text (w : Written) : List Char :=
  w.key ++ ':' :: (w.space ++ w.digits ++ ['%'])

/-- The entry that is read from them. -/
def entry (w : Written) : Entry :=
  ⟨w.key, w.digits, w.text.length⟩

/-- The key is an identifier, and there are digits and nothing else after it. -/
structure Proper (w : Written) : Prop where
  identifier : isIdentifier w.key = true
  filled : w.digits ≠ []
  decimal : ∀ c ∈ w.digits, Text.isDecimalDigit c = true

theorem space_eq (w : Written) : w.space = [] ∨ w.space = [' '] := by
  rw [space]
  cases w.spaced
  · exact .inl rfl
  · exact .inr rfl

end Written

theorem isDecimalDigit_of_isDigit {c : Char} (h : c.isDigit = true) :
    Text.isDecimalDigit c = true := by
  have ascii : c.toNat < 128 := by
    rw [Char.isDigit_iff_toNat] at h
    exact Nat.lt_of_le_of_lt h.2 (by decide)
  rw [Text.isDecimalDigit, if_pos ascii]
  exact h

/-- What is written of an entry is read back, wherever no word goes on. -/
theorem entryAt?_written {w : Written} (proper : w.Proper) {before : Option Char}
    (outside : Text.isWordNeighbour before = false) (s : List Char) :
    entryAt? before (w.text ++ s) = some w.entry := by
  let tail := ':' :: (w.space ++ w.digits ++ '%' :: s)
  have shape : w.text ++ s = w.key ++ tail := by simp [tail, Written.text]
  have read : digitsAfterKey? tail = some w.digits :=
    digitsAfterKey?_eq_some_iff.2 ⟨⟨w.space, s, w.space_eq, rfl⟩, proper.filled, proper.decimal⟩
  obtain ⟨c, k, key, start, -⟩ := isIdentifier_iff.1 proper.identifier
  have head : (w.key ++ tail).head? = some c := by
    rw [key]
    rfl
  have boundary : Text.isWordBoundary before (some c) = true := by
    rw [Text.isWordBoundary, outside, Bool.false_bne]
    exact isWordChar_of_isKeyChar (isKeyChar_of_isKeyStart start)
  have skipped : skipSpace (tail.drop 1) = w.digits ++ '%' :: s := by
    obtain ⟨d, ds, digits⟩ := List.exists_cons_of_ne_nil proper.filled
    have no_space : (w.digits ++ '%' :: s).head? ≠ some ' ' := by
      rw [digits]
      rintro ⟨⟩
      exact absurd (proper.decimal ' ' (digits ▸ List.mem_cons_self)) (by decide)
    rw [List.drop_one, List.tail_cons, List.append_assoc]
    exact skipSpace_append w.space_eq no_space
  have length : w.key.length + 1 + (tail.length - 1 - (skipSpace (tail.drop 1)).length) +
      w.digits.length + 1 = w.text.length := by
    rw [skipped]
    simp only [tail, Written.text, List.length_append, List.length_cons, List.length_nil]
    omega
  have run : (w.key ++ tail).takeWhile isKeyChar = w.key := takeWhile_isKeyChar proper.identifier _
  have starts : (Text.isWordBoundary before (some c) && (some c).any isKeyStart) = true := by
    rw [boundary]
    exact start
  rw [shape, entryAt?, run, head, if_pos starts]
  dsimp only
  rw [List.drop_left, read, Option.map_some, length]
  rfl

/-! ## Entries that are joined together -/

/-- The characters of an entry that was found are passed over. -/
theorem entriesFrom_length (before : Option Char) (x s : List Char) :
    entriesFrom x.length before (x ++ s) = entriesFrom 0 (lastOf before x) s := by
  induction x generalizing before with
  | nil => rfl
  | cons c x ih => exact ih (some c)

theorem entriesFrom_written {w : Written} (proper : w.Proper) {before : Option Char}
    (outside : Text.isWordNeighbour before = false) (s : List Char) :
    entriesFrom 0 before (w.text ++ s) = w.entry :: entriesFrom 0 (some '%') s := by
  have entry := entryAt?_written proper outside s
  obtain ⟨c, k, key, -⟩ := isIdentifier_iff.1 proper.identifier
  obtain ⟨x, text, last⟩ : ∃ x, w.text = c :: x ∧ lastOf (some c) x = some '%' := by
    refine ⟨k ++ ':' :: (w.space ++ w.digits ++ ['%']), ?_, ?_⟩
    · rw [Written.text, key]
      rfl
    · simp [lastOf]
  have length : w.entry.length - 1 = x.length := by
    rw [Written.entry, text]
    rfl
  rw [text, List.cons_append] at entry ⊢
  rw [entriesFrom, entry]
  dsimp only
  rw [length, entriesFrom_length, last]

/-- Where no entry begins, the next character is tried. -/
theorem entriesFrom_cons {before : Option Char} {c : Char} {s : List Char}
    (nothing : entryAt? before (c :: s) = none) :
    entriesFrom 0 before (c :: s) = entriesFrom 0 (some c) s := by
  rw [entriesFrom, nothing]

/-- No entry begins among characters that start no key. -/
theorem entriesFrom_noStart {x : List Char} (quiet : ∀ c ∈ x, isKeyStart c = false)
    (before : Option Char) (s : List Char) :
    entriesFrom 0 before (x ++ s) = entriesFrom 0 (lastOf before x) s := by
  induction x generalizing before with
  | nil => rfl
  | cons c x ih =>
    have nothing : entryAt? before (c :: (x ++ s)) = none := by
      simp [entryAt?, quiet c List.mem_cons_self]
    rw [List.cons_append, entriesFrom_cons nothing,
      ih fun d mem => quiet d (List.mem_cons_of_mem c mem)]
    rfl

theorem entriesFrom_lineFeed (before : Option Char) (s : List Char) :
    entriesFrom 0 before ('\n' :: s) = entriesFrom 0 (some '\n') s := by
  have nothing : entryAt? before ('\n' :: s) = none := by
    have quiet : isKeyStart '\n' = false := by decide
    simp [entryAt?, quiet]
  exact entriesFrom_cons nothing

/-- A line without a colon has no entry, as a key ends before a line feed. -/
theorem entriesFrom_noColon {x : List Char} (plain : ':' ∉ x) (before : Option Char)
    (s : List Char) : entriesFrom 0 before (x ++ '\n' :: s) = entriesFrom 0 (some '\n') s := by
  induction x generalizing before with
  | nil => exact entriesFrom_lineFeed before s
  | cons c x ih =>
    have nothing : entryAt? before (c :: (x ++ '\n' :: s)) = none := by
      rw [Option.eq_none_iff_forall_ne_some]
      intro e found
      obtain ⟨identifier, -, rest, whole, digits, -⟩ := entryAt?_eq_some found
      obtain ⟨t, rfl⟩ := colon_of_digitsAfterKey? digits
      rcases List.append_eq_append_iff.1 (show (c :: x) ++ '\n' :: s = e.key ++ ':' :: t from whole)
        with ⟨y, key, line⟩ | ⟨y, heading, colon⟩
      · cases y with
        | nil => cases line
        | cons d y =>
          cases line
          have mem : '\n' ∈ e.key := key ▸ List.mem_append_right _ List.mem_cons_self
          exact absurd (isKeyChar_of_mem identifier mem) (by decide)
      · cases y with
        | nil => cases colon
        | cons d y =>
          cases colon
          exact plain (heading ▸ List.mem_append_right _ List.mem_cons_self)
    rw [List.cons_append, entriesFrom_cons nothing]
    exact ih (fun mem => plain (List.mem_cons_of_mem c mem)) (some c)

/-- Characters that may stand between entries: they start no key, and the last of them is no part
of a word. -/
structure Separates (sep : List Char) : Prop where
  quiet : ∀ c ∈ sep, isKeyStart c = false
  apart : Text.isWordNeighbour (lastOf (some '%') sep) = false

/-- Entries that are joined together are read back one by one, where something follows that is read
the same after whatever comes before it. -/
theorem entriesFrom_intercalate {sep : List Char} (separates : Separates sep) {ws : List Written}
    (proper : ∀ w ∈ ws, w.Proper) {before : Option Char}
    (outside : Text.isWordNeighbour before = false) {s : List Char} {others : List Entry}
    (follow : ∀ b, entriesFrom 0 b s = others) :
    entriesFrom 0 before (sep.intercalate (ws.map Written.text) ++ s) =
      ws.map Written.entry ++ others := by
  induction ws generalizing before with
  | nil => exact follow before
  | cons w rest ih =>
    have first := proper w List.mem_cons_self
    cases rest with
    | nil =>
      rw [List.map_singleton, List.intercalate_singleton, entriesFrom_written first outside, follow]
      rfl
    | cons w' rest =>
      have later := ih (fun r mem => proper r (List.mem_cons_of_mem w mem)) separates.apart
      rw [List.map_cons, List.map_cons, List.intercalate_cons_cons, List.append_assoc,
        List.append_assoc, entriesFrom_written first outside,
        entriesFrom_noStart separates.quiet]
      exact congrArg (w.entry :: ·) later

theorem separates_lineFeed : Separates ['\n'] where
  quiet := List.forall_mem_singleton.2 (by decide)
  apart := by decide

theorem separates_comma : Separates [',', ' '] where
  quiet := List.forall_mem_cons.2 ⟨by decide, List.forall_mem_singleton.2 (by decide)⟩
  apart := by decide

/-- The first entry of a key, where entries are made of something else that has their keys. -/
theorem find?_map_entry {α : Type} {entry : α → Entry} {name : α → String}
    (same : ∀ x, (entry x).key = (name x).toList) (xs : List α) (key : String) :
    (xs.map entry).find? (fun e => e.key == key.toList) =
      (xs.find? fun x => name x == key).map entry := by
  rw [List.find?_map]
  congr 2
  funext x
  rw [Bool.eq_iff_iff, Function.comp_apply, same, beq_iff_eq, beq_iff_eq]
  exact String.toList_inj

/-! ## Reports as they are written -/

/-- The share of a resource that a report names, with the zeros written before its percentage. -/
structure Share where
  key : String
  identifier : isIdentifier key.toList = true
  percent : UInt32
  spaced : Bool
  zeros : Nat

namespace Share

/-- The percentage in digits. -/
def digits (share : Share) : List Char :=
  List.replicate share.zeros '0' ++ Number.digits share.percent.toNat

/-- A share as it is written. -/
def text (share : Share) : String :=
  share.key ++ ":" ++ (if share.spaced then " " else "") ++ String.ofList share.digits ++ "%"

/-- The characters of a share. -/
def written (share : Share) : Written :=
  ⟨share.key.toList, share.spaced, share.digits⟩

theorem toList_text (share : Share) : share.text.toList = share.written.text := by
  rw [text]
  cases spaced : share.spaced <;> simp [written, Written.text, Written.space, spaced]

theorem digits_eq_padded (share : Share) :
    share.digits = padded (share.zeros + (Number.digits share.percent.toNat).length)
      share.percent.toNat := by
  rw [digits, padded, Nat.add_sub_cancel]

theorem isDigit_of_mem_digits {share : Share} {c : Char} (h : c ∈ share.digits) :
    c.isDigit = true := by
  rw [digits_eq_padded] at h
  exact isDigit_of_mem_padded h

theorem digits_ne_nil (share : Share) : share.digits ≠ [] := by
  rw [digits_eq_padded]
  exact padded_ne_nil _ _

theorem proper (share : Share) : share.written.Proper where
  identifier := share.identifier
  filled := share.digits_ne_nil
  decimal _ mem := isDecimalDigit_of_isDigit (isDigit_of_mem_digits mem)

/-- Zeros in front do not change a percentage. -/
theorem readPercent_digits (share : Share) : readPercent share.digits = .found share.percent := by
  have all : share.digits.all Char.isDigit = true :=
    List.all_eq_true.2 fun _ mem => isDigit_of_mem_digits mem
  have number : readNat? share.digits = some share.percent.toNat := by
    rw [readNat?, List.isEmpty_eq_false_iff.2 share.digits_ne_nil, all, digits_eq_padded,
      ofDigits_padded]
    rfl
  have small : share.percent.toNat < percentLimit := share.percent.toNat_lt
  rw [readPercent, number]
  dsimp only
  rw [if_pos small, UInt32.ofNat_toNat]

end Share

/-- How the shares of a report are joined. -/
inductive Joint where
  | lines
  | inline
  deriving DecidableEq, Repr

/-- What stands between two shares. -/
def Joint.text : Joint → String
  | .lines => "\n"
  | .inline => ", "

theorem Joint.separates (joint : Joint) : Separates joint.text.toList := by
  cases joint with
  | lines => exact separates_lineFeed
  | inline => exact separates_comma

/-- A report as it is written: a heading or none, and the shares one after the other. -/
structure WrittenReport where
  heading : Option String
  plain : ∀ h ∈ heading, ':' ∉ h.toList
  joint : Joint
  shares : List Share

namespace WrittenReport

/-- The text of a report. -/
def text (r : WrittenReport) : String :=
  (r.heading.elim "" (· ++ "\n")) ++ r.joint.text.intercalate (r.shares.map Share.text)

/-- The percentage of the first share of a resource. -/
def first? (r : WrittenReport) (key : String) : Option UInt32 :=
  (r.shares.find? (·.key == key)).map (·.percent)

/-- The entries of a report are its shares. -/
theorem entries_text (r : WrittenReport) :
    entries r.text = r.shares.map (·.written.entry) := by
  have shares {before : Option Char} (outside : Text.isWordNeighbour before = false) :
      entriesFrom 0 before (r.joint.text.intercalate (r.shares.map Share.text)).toList =
        r.shares.map (·.written.entry) := by
    have joined : (r.joint.text.intercalate (r.shares.map Share.text)).toList =
        r.joint.text.toList.intercalate ((r.shares.map Share.written).map Written.text) := by
      rw [String.toList_intercalate, List.map_map, List.map_map]
      congr 2
      exact funext Share.toList_text
    have proper : ∀ w ∈ r.shares.map Share.written, w.Proper := by
      intro w mem
      obtain ⟨share, -, rfl⟩ := List.mem_map.1 mem
      exact share.proper
    have read := entriesFrom_intercalate (s := []) r.joint.separates proper outside
      fun b => by rw [entriesFrom]
    rw [List.append_nil, List.append_nil] at read
    rw [joined, read, List.map_map]
    rfl
  rw [entries, text]
  cases heading : r.heading with
  | none => simpa using @shares none rfl
  | some h =>
    have plain := r.plain h heading
    rw [Option.elim_some, String.toList_append, String.toList_append, List.append_assoc]
    exact (entriesFrom_noColon plain none _).trans (shares (by decide))

theorem find?_entries (r : WrittenReport) (key : String) :
    (entries r.text).find? (fun e => e.key == key.toList) =
      (r.shares.find? (·.key == key)).map (·.written.entry) := by
  rw [entries_text]
  exact find?_map_entry (fun _ => rfl) r.shares key

end WrittenReport

/-- **A written report is read back.** The report keeps its text, and gives each key the percentage
of its first share, whatever else is written. A lookup of an identifier in the text finds the same
percentage, and without a share of that very name it finds nothing. -/
theorem written_report_is_read (r : WrittenReport) :
    (Report.parse r.text).raw = r.text ∧
      (∀ key, (Report.parse r.text).percentage? key = r.first? key) ∧
      ∀ key, isIdentifier key.toList = true →
        lookup r.text key = (r.first? key).elim .missing .found := by
  refine ⟨rfl, fun key => ?_, fun key identifier => ?_⟩
  · rw [percentage?_parse_eq_find?, r.find?_entries, WrittenReport.first?]
    cases r.shares.find? (·.key == key) with
    | none => rfl
    | some share => exact congrArg Lookup.percent? share.readPercent_digits
  · rw [lookup_eq_find? identifier, r.find?_entries, WrittenReport.first?]
    cases r.shares.find? (·.key == key) with
    | none => rfl
    | some share => exact share.readPercent_digits

/-- Keys that begin or end like others, a key named twice, and the greatest percentage after three
zeros. -/
def alikeReport : WrittenReport where
  heading := some "Utilization Report"
  plain := by decide +kernel
  joint := .inline
  shares := [
    ⟨"LUTs", by decide +kernel, 45, true, 0⟩,
    ⟨"FF", by decide +kernel, 4294967295, false, 3⟩,
    ⟨"T_LUT", by decide +kernel, 7, true, 0⟩,
    ⟨"FF", by decide +kernel, 30, true, 0⟩]

theorem alikeReport_is_read :
    alikeReport.text = "Utilization Report\nLUTs: 45%, FF:0004294967295%, T_LUT: 7%, FF: 30%" ∧
      lookup alikeReport.text "FF" = .found 4294967295 ∧
      lookup alikeReport.text "LUT" = .missing := by
  obtain ⟨-, -, found⟩ := written_report_is_read alikeReport
  exact ⟨by decide +kernel, found "FF" (by decide +kernel), found "LUT" (by decide +kernel)⟩

end CoreTrial.Utilization
