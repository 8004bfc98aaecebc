import CoreTrial.Utilization.Report
import CoreTrial.Proofs.SortedMap
import Mathlib.Data.List.TakeWhile

/-!
# A report and a lookup agree

A lookup tries one key at every place of the text, a report is read by going from entry to entry.
They agree because no entry of any identifier begins inside another entry: after the first
character of a key there is no word boundary up to its end, and what follows the key has no
character that an identifier may start with.
-/

set_option autoImplicit false

namespace CoreTrial.Utilization

/-- A letter, and then letters, digits and underscores, all of ASCII. -/
def isIdentifier : List Char → Bool
  | [] => false
  | c :: rest => isKeyStart c && rest.all isKeyChar

/-- The character before what follows `x`, where `x` follows the character `before`. -/
def lastOf (before : Option Char) (x : List Char) : Option Char :=
  x.foldl (fun _ c => some c) before

theorem lastOf_append (before : Option Char) (x y : List Char) :
    lastOf before (x ++ y) = lastOf (lastOf before x) y :=
  List.foldl_append

/-- A key begins with a letter of ASCII. -/
theorem isKeyStart_iff_toNat {c : Char} :
    isKeyStart c = true ↔
      65 ≤ c.toNat ∧ c.toNat ≤ 90 ∨ 97 ≤ c.toNat ∧ c.toNat ≤ 122 := by
  have letters : isKeyStart c =
      (decide (65 ≤ c.val ∧ c.val ≤ 90) || decide (97 ≤ c.val) && decide (c.val ≤ 122)) := rfl
  rw [letters]
  simp [UInt32.le_iff_toNat_le]

theorem isKeyChar_iff {c : Char} :
    isKeyChar c = true ↔ isKeyStart c = true ∨ c.isDigit = true ∨ c = '_' := by
  have classes : isKeyChar c = (isKeyStart c || c.isDigit || c == '_') := rfl
  rw [classes, Bool.or_eq_true, Bool.or_eq_true, beq_iff_eq, or_assoc]

theorem isKeyChar_of_isKeyStart {c : Char} (h : isKeyStart c = true) : isKeyChar c = true :=
  isKeyChar_iff.2 (.inl h)

theorem toNat_lt_of_isKeyChar {c : Char} (h : isKeyChar c = true) : c.toNat < 128 := by
  rcases isKeyChar_iff.1 h with letter | digit | rfl
  · rcases isKeyStart_iff_toNat.1 letter with upper | lower
    · omega
    · omega
  · exact Nat.lt_of_le_of_lt (Char.isDigit_iff_toNat.1 digit).2 (by decide)
  · decide

theorem isWordChar_of_isKeyChar {c : Char} (h : isKeyChar c = true) : Text.isWordChar c = true := by
  rw [Text.isWordChar, if_pos (toNat_lt_of_isKeyChar h)]
  exact h

/-- A decimal digit of any script is no letter of ASCII. -/
theorem not_isKeyStart_of_isDecimalDigit {c : Char} (h : Text.isDecimalDigit c = true) :
    isKeyStart c = false := by
  refine Bool.eq_false_iff.2 fun start => ?_
  rw [Text.isDecimalDigit, if_pos (toNat_lt_of_isKeyChar (isKeyChar_of_isKeyStart start)),
    Char.isDigit_iff_toNat] at h
  have digit : c.toNat ≤ 57 := h.2
  rcases isKeyStart_iff_toNat.1 start with upper | lower
  · omega
  · omega

theorem isIdentifier_iff {key : List Char} :
    isIdentifier key = true ↔
      ∃ c rest, key = c :: rest ∧ isKeyStart c = true ∧ ∀ d ∈ rest, isKeyChar d = true := by
  cases key with
  | nil => simp [isIdentifier]
  | cons c rest =>
    rw [isIdentifier, Bool.and_eq_true_iff, List.all_eq_true]
    constructor
    · rintro ⟨start, word⟩
      exact ⟨c, rest, rfl, start, word⟩
    · rintro ⟨_, _, same, start, word⟩
      cases same
      exact ⟨start, word⟩

theorem isKeyChar_of_mem {key : List Char} (h : isIdentifier key = true) {c : Char}
    (mem : c ∈ key) : isKeyChar c = true := by
  obtain ⟨d, rest, rfl, start, word⟩ := isIdentifier_iff.1 h
  rcases List.mem_cons.1 mem with rfl | mem
  · exact isKeyChar_of_isKeyStart start
  · exact word c mem

/-- An identifier that a colon follows is all that can be read as a key there. -/
theorem takeWhile_isKeyChar {key : List Char} (h : isIdentifier key = true) (s : List Char) :
    (key ++ ':' :: s).takeWhile isKeyChar = key := by
  rw [List.takeWhile_append_of_pos fun c mem => isKeyChar_of_mem h mem,
    List.takeWhile_cons_of_neg (by decide), List.append_nil]

theorem colon_of_digitsAfterKey? {s digits : List Char} (h : digitsAfterKey? s = some digits) :
    ∃ rest, s = ':' :: rest := by
  unfold digitsAfterKey? at h
  split at h
  · exact ⟨_, rfl⟩
  · cases h

theorem skipSpace_suffix (s : List Char) :
    ∃ space, s = space ++ skipSpace s ∧ ∀ c ∈ space, c = ' ' := by
  unfold skipSpace
  split
  · exact ⟨[' '], rfl, fun c mem => List.mem_singleton.1 mem⟩
  · exact ⟨[], rfl, nofun⟩

/-- What an entry takes after its key, with its length: a colon, at most one space, the digits and
a percent sign. None of them starts an identifier. -/
theorem tail_of_digitsAfterKey? {s digits : List Char} (h : digitsAfterKey? s = some digits) :
    ∃ tail rest, s = tail ++ rest ∧ (∀ c ∈ tail, isKeyStart c = false) ∧
      tail.length = 1 + (s.length - 1 - (skipSpace (s.drop 1)).length) + digits.length + 1 := by
  obtain ⟨t, rfl⟩ := colon_of_digitsAfterKey? h
  obtain ⟨space, ht, blank⟩ := skipSpace_suffix t
  simp only [digitsAfterKey?] at h
  split at h
  · cases h
  split at h
  · rename_i percent
    cases h
    obtain ⟨rest, hrest⟩ := List.head?_eq_some_iff.1 percent
    have run := List.prefix_iff_eq_append.1
      (List.takeWhile_prefix (l := skipSpace t) Text.isDecimalDigit)
    rw [hrest] at run
    refine ⟨':' :: (space ++ (skipSpace t).takeWhile Text.isDecimalDigit ++ ['%']), rest,
      ?_, ?_, ?_⟩
    · have whole : t = space ++ ((skipSpace t).takeWhile Text.isDecimalDigit ++ '%' :: rest) := by
        rw [run]
        exact ht
      simpa using whole
    · intro c mem
      simp only [List.mem_cons, List.mem_append, List.not_mem_nil, or_false] at mem
      rcases mem with rfl | (mem | mem) | rfl
      · decide
      · rw [blank c mem]
        decide
      · exact not_isKeyStart_of_isDecimalDigit (List.mem_takeWhile_imp mem)
      · decide
    · have length := congrArg List.length ht
      rw [List.length_append] at length
      simp only [List.length_cons, List.length_append, List.length_nil, List.drop_succ_cons,
        List.drop_zero]
      omega
  · cases h

/-- The key of an entry is what can be read as one, and it is an identifier. -/
theorem entryAt?_eq_some {before : Option Char} {s : List Char} {e : Entry}
    (h : entryAt? before s = some e) :
    isIdentifier e.key = true ∧ Text.isWordBoundary before s.head? = true ∧
      ∃ rest, s = e.key ++ rest ∧ digitsAfterKey? rest = some e.digits ∧
        e.length = e.key.length + 1 + (rest.length - 1 - (skipSpace (rest.drop 1)).length) +
          e.digits.length + 1 := by
  unfold entryAt? at h
  split at h
  · rename_i start
    obtain ⟨boundary, start⟩ := Bool.and_eq_true_iff.1 start
    obtain ⟨digits, hd, rfl⟩ := Option.map_eq_some_iff.1 h
    refine ⟨?_, boundary, s.drop (s.takeWhile isKeyChar).length, ?_, hd, rfl⟩
    · match s, start with
      | c :: s, start =>
        have word := isKeyChar_of_isKeyStart start
        simp only [List.takeWhile_cons_of_pos word, isIdentifier, Bool.and_eq_true_iff]
        exact ⟨start, List.all_takeWhile⟩
    · exact (List.prefix_iff_eq_append.1 (List.takeWhile_prefix isKeyChar)).symm
  · cases h

/-- The entry that is found at a place is an entry of its key there. -/
theorem entryOf?_key {before : Option Char} {s : List Char} {e : Entry}
    (h : entryAt? before s = some e) : entryOf? e.key before s = some e.digits := by
  obtain ⟨-, boundary, rest, whole, digits, -⟩ := entryAt?_eq_some h
  rw [entryOf?, if_pos boundary, Text.after?_eq_some_iff.2 whole]
  exact digits

/-- An entry of an identifier is the one that is found at its place. -/
theorem entryAt?_of_entryOf? {key digits : List Char} (identifier : isIdentifier key = true)
    {before : Option Char} {s : List Char} (h : entryOf? key before s = some digits) :
    ∃ e, entryAt? before s = some e ∧ e.key = key ∧ e.digits = digits := by
  unfold entryOf? at h
  split at h
  · rename_i boundary
    obtain ⟨rest, after, hd⟩ := Option.bind_eq_some_iff.1 h
    rw [Text.after?_eq_some_iff] at after
    obtain ⟨r, rfl⟩ := colon_of_digitsAfterKey? hd
    subst after
    have start : (key ++ ':' :: r).head?.any isKeyStart = true := by
      obtain ⟨c, k, rfl, start, -⟩ := isIdentifier_iff.1 identifier
      exact start
    simp only [entryAt?, takeWhile_isKeyChar identifier, List.drop_left, boundary, start, hd]
    exact ⟨_, rfl, rfl, rfl⟩
  · cases h

theorem entryOf?_eq_none {key : List Char} (identifier : isIdentifier key = true)
    {before : Option Char} {s : List Char} (h : ∀ e, entryAt? before s = some e → e.key ≠ key) :
    entryOf? key before s = none := by
  rw [Option.eq_none_iff_forall_ne_some]
  intro digits hd
  obtain ⟨e, found, same, -⟩ := entryAt?_of_entryOf? identifier hd
  exact h e found same

section Passing

variable {key : List Char} (identifier : isIdentifier key = true)

include identifier

/-- No entry of an identifier begins where no key can. -/
theorem firstDigits?_cons {before : Option Char} {c : Char} {s : List Char}
    (h : Text.isWordBoundary before (some c) = false ∨ isKeyStart c = false) :
    firstDigits? key before (c :: s) = firstDigits? key (some c) s := by
  have none_here : entryOf? key before (c :: s) = none := by
    refine entryOf?_eq_none identifier fun e entry => ?_
    obtain ⟨entry_key, boundary, rest, whole, -⟩ := entryAt?_eq_some entry
    obtain ⟨d, k, entry_key, start, -⟩ := isIdentifier_iff.1 entry_key
    rcases h with inside | other
    · rw [List.head?_cons, inside] at boundary
      cases boundary
    · rw [entry_key] at whole
      cases whole
      rw [start] at other
      cases other
  rw [firstDigits?, none_here]

/-- No entry of an identifier begins among key characters after the first. -/
theorem firstDigits?_keyChars {b : Char} (hb : isKeyChar b = true) {x : List Char}
    (hx : ∀ c ∈ x, isKeyChar c = true) (s : List Char) :
    firstDigits? key (some b) (x ++ s) = firstDigits? key (lastOf (some b) x) s := by
  induction x generalizing b with
  | nil => rfl
  | cons c x ih =>
    have word := hx c List.mem_cons_self
    have inside : Text.isWordBoundary (some b) (some c) = false := by
      simp [Text.isWordBoundary, Text.isWordNeighbour, isWordChar_of_isKeyChar hb,
        isWordChar_of_isKeyChar word]
    rw [List.cons_append, firstDigits?_cons identifier (.inl inside)]
    exact ih word fun d mem => hx d (List.mem_cons_of_mem c mem)

/-- No entry of an identifier begins among characters that start none. -/
theorem firstDigits?_noStart {before : Option Char} {x : List Char}
    (hx : ∀ c ∈ x, isKeyStart c = false) (s : List Char) :
    firstDigits? key before (x ++ s) = firstDigits? key (lastOf before x) s := by
  induction x generalizing before with
  | nil => rfl
  | cons c x ih =>
    rw [List.cons_append, firstDigits?_cons identifier (.inr (hx c List.mem_cons_self))]
    exact ih fun d mem => hx d (List.mem_cons_of_mem c mem)

/-- No entry of an identifier begins inside another entry. -/
theorem firstDigits?_inside {before : Option Char} {c : Char} {s : List Char} {e : Entry}
    (h : entryAt? before (c :: s) = some e) :
    firstDigits? key (some c) s =
      firstDigits? key (lastOf (some c) (s.take (e.length - 1))) (s.drop (e.length - 1)) := by
  obtain ⟨hk, -, r, whole, digits, length⟩ := entryAt?_eq_some h
  obtain ⟨tail, rest, rfl, quiet, tail_length⟩ := tail_of_digitsAfterKey? digits
  obtain ⟨d, k, entry_key, start, word⟩ := isIdentifier_iff.1 hk
  rw [entry_key] at whole length
  obtain ⟨rfl, hs⟩ := List.cons.inj whole
  have taken : e.length - 1 = (k ++ tail).length := by
    rw [List.length_append, length, List.length_cons, tail_length]
    omega
  have parts : s = k ++ tail ++ rest := by
    rw [List.append_assoc]
    exact hs
  rw [taken, parts, List.take_left, List.drop_left, lastOf_append, List.append_assoc,
    firstDigits?_keyChars identifier (isKeyChar_of_isKeyStart start) word,
    firstDigits?_noStart identifier quiet]

/-- Going from entry to entry finds the same entry of an identifier as trying every place. -/
theorem find?_entriesFrom (skip : Nat) (before : Option Char) (s : List Char) :
    ((entriesFrom skip before s).find? fun e => e.key == key).map (·.digits) =
      firstDigits? key (lastOf before (s.take skip)) (s.drop skip) := by
  fun_induction entriesFrom skip before s with
  | case1 skip before =>
    obtain ⟨c, rest, rfl, -⟩ := isIdentifier_iff.1 identifier
    simp only [List.take_nil, List.drop_nil, firstDigits?, entryOf?, Text.after?, Option.bind_none,
      ite_self]
    rfl
  | case2 skip before c s ih => exact ih
  | case3 before c s e found ih =>
    rw [List.take_zero, List.drop_zero]
    show _ = firstDigits? key before (c :: s)
    rw [firstDigits?]
    by_cases same : e.key = key
    · subst same
      rw [entryOf?_key found, List.find?_cons_of_pos (by simp)]
      rfl
    · have other : entryOf? key before (c :: s) = none := by
        refine entryOf?_eq_none identifier fun d found' => ?_
        cases found.symm.trans found'
        exact same
      rw [other, List.find?_cons_of_neg (by simpa using same), ih]
      exact (firstDigits?_inside identifier found).symm
  | case4 before c s found ih =>
    have other : entryOf? key before (c :: s) = none := by
      refine entryOf?_eq_none identifier fun d found' => ?_
      rw [found] at found'
      cases found'
    rw [ih, List.take_zero, List.drop_zero, List.take_zero, List.drop_zero]
    show _ = firstDigits? key before (c :: s)
    rw [firstDigits?, other]
    rfl

end Passing

/-- The keys of the entries of a text are identifiers. -/
theorem isIdentifier_of_mem_entriesFrom {skip : Nat} {before : Option Char} {s : List Char}
    {e : Entry} (h : e ∈ entriesFrom skip before s) : isIdentifier e.key = true := by
  fun_induction entriesFrom skip before s with
  | case1 skip before => cases h
  | case2 skip before c s ih => exact ih h
  | case3 before c s d found ih =>
    rcases List.mem_cons.1 h with rfl | h
    · exact (entryAt?_eq_some found).1
    · exact ih h
  | case4 before c s found ih => exact ih h

/-- What a report holds of a key is what its first entry of the key says, if that can be read. -/
theorem percentage?_parse_eq_find? (text key : String) :
    (Report.parse text).percentage? key =
      ((entries text).find? fun e => e.key == key.toList).bind fun e =>
        (readPercent e.digits).percent? := by
  have same (e : Entry) : (String.ofList e.key == key) = (e.key == key.toList) := by
    rw [Bool.eq_iff_iff, beq_iff_eq, beq_iff_eq]
    constructor
    · rintro rfl
      exact String.toList_ofList.symm
    · intro h
      rw [h, String.ofList_toList]
  have empty : (SortedMap.empty : SortedMap Lookup).find? key = none := rfl
  rw [Report.percentage?, Report.parse, SortedMap.find?_filterMap,
    SortedMap.find?_foldl_insertNew, empty, Option.none_or, funext same]
  cases (entries text).find? fun e => e.key == key.toList <;> rfl

/-- The lookup of an identifier finds what the first of all entries with this key says. -/
theorem lookup_eq_find? {key : String} (identifier : isIdentifier key.toList = true)
    (text : String) :
    lookup text key =
      (((entries text).find? fun e => e.key == key.toList).map fun e =>
        readPercent e.digits).getD .missing := by
  have agree := find?_entriesFrom identifier 0 none text.toList
  rw [List.take_zero, List.drop_zero] at agree
  change _ = firstDigits? key.toList none text.toList at agree
  rw [lookup, ← agree, entries]
  cases (entriesFrom 0 none text.toList).find? fun e => e.key == key.toList <;> rfl

theorem percentage?_eq_find? {key : String} (identifier : isIdentifier key.toList = true)
    (text : String) :
    percentage? text key =
      ((entries text).find? fun e => e.key == key.toList).bind fun e =>
        (readPercent e.digits).percent? := by
  rw [percentage?, lookup_eq_find? identifier]
  cases (entries text).find? fun e => e.key == key.toList <;> rfl

/-- **A report and a lookup agree.** The percentage that a report gives an identifier is the one
that the lookup finds, for every text; to no other key does a report give one. -/
theorem percentage?_parse (text key : String) :
    (Report.parse text).percentage? key =
      if isIdentifier key.toList then percentage? text key else none := by
  rw [percentage?_parse_eq_find?]
  by_cases identifier : isIdentifier key.toList = true
  · rw [if_pos identifier]
    have agree := find?_entriesFrom identifier 0 none text.toList
    rw [List.take_zero, List.drop_zero] at agree
    change _ = firstDigits? key.toList none text.toList at agree
    rw [percentage?, lookup, ← agree, entries]
    cases (entriesFrom 0 none text.toList).find? fun e => e.key == key.toList <;> rfl
  · rw [if_neg identifier]
    have absent : ((entries text).find? fun e => e.key == key.toList) = none := by
      rw [List.find?_eq_none]
      intro e mem same
      rw [← eq_of_beq same] at identifier
      exact identifier (isIdentifier_of_mem_entriesFrom mem)
    rw [absent]
    rfl

example : (Report.parse "LUT: 1%FF: 2%").percentage? "FF" = some 2 := by decide +kernel
example : (Report.parse "LUT: 9999999999% LUT: 7%").percentage? "LUT" = none := by decide +kernel

end CoreTrial.Utilization
