import CoreTrial.Proofs.Number.Decimal
import CoreTrial.Proofs.Time.Calendar

/-!
# The text of an instant is read back

The text of an instant gives its calendar day and its time of day field by field, and the reader
takes these fields in turn. A leap second is written as second 60, and read as the second before it
with a billion nanoseconds more.
-/

set_option autoImplicit false

namespace CoreTrial.Timestamp

open Number (padded)

/-- An instant that the calendar holds: its year is in range, and it is in no leap second unless
that comes at the end of a minute. -/
structure Valid (t : Timestamp) : Prop where
  least : -262143 ≤ (CalendarDay.ofDays (t.seconds / 86400)).year
  greatest : (CalendarDay.ofDays (t.seconds / 86400)).year ≤ 262142
  nanos : t.nanos < 1000000000 ∨ t.nanos < 2000000000 ∧ t.seconds % 60 = 59

variable {c : Char} {s rest run : List Char} {width n least greatest : Nat}

theorem isBlank_of_isDigit (h : c.isDigit = true) : Text.isBlank c = false := by
  obtain ⟨low, high⟩ : 48 ≤ c.toNat ∧ c.toNat ≤ 57 := by
    simpa [Char.isDigit, UInt32.le_iff_toNat_le] using h
  have space : c ≠ ' ' := by
    rintro rfl
    exact absurd low (by decide)
  rw [Text.isBlank, if_pos (by omega), Bool.or_eq_false_iff, Bool.and_eq_false_iff]
  exact ⟨beq_eq_false_iff_ne.2 space, .inr (decide_eq_false (by omega))⟩

theorem trimLeft_of_not_blank (h : Text.isBlank c = false) : Text.trimLeft (c :: s) = c :: s :=
  List.dropWhile_cons_of_neg (by simp [h])

/-- A run of digits stands at the start of a text. -/
theorem trimLeft_append (digits : ∀ c ∈ run, c.isDigit = true) (ne : run ≠ []) (rest : List Char) :
    Text.trimLeft (run ++ rest) = run ++ rest := by
  obtain ⟨c, tail, rfl⟩ := List.exists_cons_of_ne_nil ne
  exact trimLeft_of_not_blank (isBlank_of_isDigit (digits c List.mem_cons_self))

theorem append_ne_cons (digits : ∀ c ∈ run, c.isDigit = true) (ne : run ≠ [])
    (other : c.isDigit = false) : run ++ rest ≠ c :: s := by
  obtain ⟨d, tail, rfl⟩ := List.exists_cons_of_ne_nil ne
  intro same
  have digit := digits d List.mem_cons_self
  rw [(List.cons.inj same).1, other] at digit
  cases digit

theorem digitsUpTo_append (digits : ∀ c ∈ run, c.isDigit = true) (ne : run ≠ [])
    (length : run.length = width) (rest : List Char) :
    digitsUpTo width (run ++ rest) = some (run, rest) := by
  have taken : ((run ++ rest).takeWhile Char.isDigit).take width = run := by
    rw [List.takeWhile_append_of_pos digits, List.take_left' length]
  unfold digitsUpTo
  dsimp only
  rw [trimLeft_append digits ne rest, taken, if_neg (by simpa using ne), List.drop_left]

/-- A number that fills its places is read from them, and no digit more. -/
theorem field_padded (pos : 0 < width) (small : n < 10 ^ width) (low : least ≤ n)
    (high : n ≤ greatest) (rest : List Char) :
    field width least greatest (padded width n ++ rest) = some (n, rest) := by
  have digits := digitsUpTo_append (fun _ => Number.isDigit_of_mem_padded)
    (Number.padded_ne_nil width n) (Number.length_padded pos small) rest
  unfold field
  rw [digits]
  simp [Number.ofDigits_padded, low, high]

theorem mark_cons (h : Text.isBlank c = false) (rest : List Char) :
    mark c (c :: rest) = some rest := by
  unfold mark
  rw [trimLeft_of_not_blank h]
  exact if_pos rfl

/-- A year after a sign ends where its digits do. -/
theorem signed_padded (width n : Nat) (sign : Nat → Int) (low : -262143 ≤ sign n)
    (high : sign n ≤ 262142) (stop : c.isDigit = false) (rest : List Char) :
    yearField.signed (padded width n ++ c :: rest) sign = some (sign n, c :: rest) := by
  have run : (padded width n ++ c :: rest).takeWhile Char.isDigit = padded width n := by
    rw [List.takeWhile_append_of_pos fun _ => Number.isDigit_of_mem_padded,
      List.takeWhile_cons_of_neg (by simp [stop]), List.append_nil]
  unfold yearField.signed
  dsimp only
  rw [run, if_neg (by simpa using Number.padded_ne_nil width n), Number.ofDigits_padded,
    if_pos ⟨low, high⟩, List.drop_left]

/-- The text of a year is read back, up to what follows it. -/
theorem yearField_yearText {year : Int} (low : -262143 ≤ year) (high : year ≤ 262142)
    (stop : c.isDigit = false) :
    yearField ((yearText year).toList ++ c :: rest) = some (year, c :: rest) := by
  unfold yearText
  by_cases plain : 0 ≤ year ∧ year ≤ 9999
  · have small : year.toNat < 10 ^ 4 := by omega
    have digits := digitsUpTo_append (fun _ => Number.isDigit_of_mem_padded)
      (Number.padded_ne_nil 4 year.toNat) (Number.length_padded (by decide) small) (c :: rest)
    have value : ((year.toNat : Nat) : Int) = year := Int.toNat_of_nonneg plain.1
    have trimmed := trimLeft_append (fun _ => Number.isDigit_of_mem_padded)
      (Number.padded_ne_nil 4 year.toNat) (c :: rest)
    rw [if_pos plain, String.toList_ofList]
    unfold yearField
    rw [trimmed]
    split
    · rename_i more same
      exact absurd same (append_ne_cons (fun _ => Number.isDigit_of_mem_padded)
        (Number.padded_ne_nil 4 _) rfl)
    · rename_i more same
      exact absurd same (append_ne_cons (fun _ => Number.isDigit_of_mem_padded)
        (Number.padded_ne_nil 4 _) rfl)
    · rw [digits]
      simp [Number.ofDigits_padded, value]
  · rw [if_neg plain, String.toList_append, String.toList_ofList]
    by_cases negative : year < 0
    · have sign : -((year.natAbs : Nat) : Int) = year := by omega
      rw [if_pos negative]
      have read := signed_padded 4 year.natAbs (fun n => -(n : Int)) (by rw [sign]; exact low)
        (by rw [sign]; exact high) stop rest
      rw [sign] at read
      exact read
    · have sign : Int.ofNat year.natAbs = year := Int.natAbs_of_nonneg (Int.not_lt.1 negative)
      rw [if_neg negative]
      have read := signed_padded 4 year.natAbs Int.ofNat (by rw [sign]; exact low)
        (by rw [sign]; exact high) stop rest
      rw [sign] at read
      exact read

theorem fractionField_point (s : List Char) :
    fractionField ('.' :: s) =
      if (s.takeWhile Char.isDigit).isEmpty then none
      else some (Number.ofDigits ((s.takeWhile Char.isDigit).take 9) *
        Nat.pow 10 (9 - ((s.takeWhile Char.isDigit).take 9).length),
        s.drop (s.takeWhile Char.isDigit).length) := rfl

/-- The fraction of a second is read back in nanoseconds. -/
theorem fractionField_fractionText {nanos : Nat} (small : nanos < 1000000000)
    (stop : c.isDigit = false) (no_point : c ≠ '.') (rest : List Char) :
    fractionField ((fractionText nanos).toList ++ c :: rest) = some (nanos, c :: rest) := by
  -- A point and some digits: 3, 6 or 9 of them.
  have pointed {places value : Nat} (few : 0 < places ∧ places ≤ 9) (fits : value < 10 ^ places)
      (whole : value * 10 ^ (9 - places) = nanos) :
      fractionField (("." ++ String.ofList (padded places value)).toList ++ c :: rest) =
        some (nanos, c :: rest) := by
    have run : (padded places value ++ c :: rest).takeWhile Char.isDigit = padded places value := by
      rw [List.takeWhile_append_of_pos fun _ => Number.isDigit_of_mem_padded,
        List.takeWhile_cons_of_neg (by simp [stop]), List.append_nil]
    have length := Number.length_padded few.1 fits
    have nine : (padded places value).take 9 = padded places value :=
      List.take_of_length_le (by omega)
    have text : ("." ++ String.ofList (padded places value)).toList ++ c :: rest =
        '.' :: (padded places value ++ c :: rest) := by
      simp
    rw [text, fractionField_point, run, if_neg (by simpa using Number.padded_ne_nil places value),
      nine, List.drop_left, length, Number.ofDigits_padded]
    exact congrArg (fun n => some (n, c :: rest)) whole
  unfold fractionText
  split
  · rename_i none
    subst none
    unfold fractionField
    split
    · rename_i more same
      exact absurd (List.cons.inj same).1 no_point
    · rfl
  · split
    · exact pointed (by decide) (by omega) (by omega)
    · split
      · exact pointed (by decide) (by omega) (by omega)
      · exact pointed (by decide) (by omega) (by omega)

/-- The text of an instant, as it is read. -/
theorem toList_toText (t : Timestamp) :
    let day := CalendarDay.ofDays (t.seconds / 86400)
    let clock := (t.seconds % 86400).toNat
    let leap := if 1000000000 ≤ t.nanos then 1 else 0
    t.toText.toList = (yearText day.year).toList ++ '-' :: (padded 2 day.month ++ '-' ::
      (padded 2 day.day ++ 'T' :: (padded 2 (clock / 3600) ++ ':' ::
        (padded 2 (clock / 60 % 60) ++ ':' :: (padded 2 (clock % 60 + leap) ++
          ((fractionText (t.nanos % 1000000000)).toList ++ ['Z'])))))) := by
  simp [toText, two]

/-- A leap second counts in the seconds of the clock, but not in those of the instant. -/
theorem exists_leap {t : Timestamp} (valid : t.Valid) (clock : Nat)
    (minute_end : (clock : Int) % 60 = t.seconds % 60) :
    ∃ leap, (if 1000000000 ≤ t.nanos then 1 else 0) = leap ∧ leap ≤ 1 ∧
      min (clock % 60 + leap) 59 = clock % 60 ∧
      t.nanos % 1000000000 + (if clock % 60 + leap = 60 then 1000000000 else 0) = t.nanos := by
  have nanos := valid.nanos
  by_cases leap : 1000000000 ≤ t.nanos
  · refine ⟨1, if_pos leap, Nat.le_refl 1, by omega, ?_⟩
    rw [if_pos (by omega)]
    omega
  · refine ⟨0, if_neg leap, by decide, by omega, ?_⟩
    rw [if_neg (by omega)]
    omega

/-- **An instant is read back from its text.** -/
theorem read?_toText {t : Timestamp} (valid : t.Valid) : read? t.toText = some t := by
  obtain ⟨month_low, month_high, day_low, day_high⟩ :=
    CalendarDay.ofDays_valid (t.seconds / 86400)
  have back := CalendarDay.toDays_ofDays (t.seconds / 86400)
  have low := valid.least
  have high := valid.greatest
  have text := toList_toText t
  dsimp only at text
  have short := Nat.le_trans day_high (CalendarDay.daysInMonth_le ..)
  have clock_cast : ((t.seconds % 86400).toNat : Int) = t.seconds % 86400 := by omega
  obtain ⟨leap, leaps, one, second_back, nanos_back⟩ :=
    exists_leap valid (t.seconds % 86400).toNat (by omega)
  generalize (t.seconds % 86400).toNat = clock at *
  generalize civil : CalendarDay.ofDays (t.seconds / 86400) = day at *
  -- The fields, in the order in which they are read.
  have two : 0 < 2 := by decide
  have month := field_padded two (Nat.lt_of_le_of_lt month_high (by decide)) month_low month_high
  have date := field_padded two (Nat.lt_of_le_of_lt short (by decide)) day_low short
  have hour := field_padded two (by omega) (Nat.zero_le _) (by omega : clock / 3600 ≤ 23)
  have minute := field_padded two (by omega) (Nat.zero_le _) (by omega : clock / 60 % 60 ≤ 59)
  have second := field_padded two (by omega) (Nat.zero_le _) (by omega : clock % 60 + leap ≤ 60)
  have fraction := fractionField_fractionText (Nat.mod_lt t.nanos (by decide : 0 < 1000000000))
    (rfl : 'Z'.isDigit = false) (by decide) []
  have zone : zoneField ['Z'] = some (0, []) := by decide
  have dash := mark_cons (by decide : Text.isBlank '-' = false)
  have colon := mark_cons (by decide : Text.isBlank ':' = false)
  have instant : day.toDays * 86400 + (((clock / 3600 : Nat) : Int) * 3600 +
      ((clock / 60 % 60 : Nat) : Int) * 60 + ((clock % 60 : Nat) : Int)) - 0 = t.seconds := by
    rw [back]
    omega
  unfold read?
  rw [text, leaps]
  refine Option.bind_eq_some_iff.2 ⟨_, yearField_yearText low high rfl, ?_⟩
  refine Option.bind_eq_some_iff.2 ⟨_, dash _, ?_⟩
  refine Option.bind_eq_some_iff.2 ⟨_, month _, ?_⟩
  refine Option.bind_eq_some_iff.2 ⟨_, dash _, ?_⟩
  refine Option.bind_eq_some_iff.2 ⟨_, date _, ?_⟩
  refine (if_pos (.inr (.inl rfl))).trans ?_
  refine Option.bind_eq_some_iff.2 ⟨_, rfl, ?_⟩
  refine Option.bind_eq_some_iff.2 ⟨_, hour _, ?_⟩
  refine Option.bind_eq_some_iff.2 ⟨_, colon _, ?_⟩
  refine Option.bind_eq_some_iff.2 ⟨_, minute _, ?_⟩
  refine Option.bind_eq_some_iff.2 ⟨_, colon _, ?_⟩
  refine Option.bind_eq_some_iff.2 ⟨_, second _, ?_⟩
  refine Option.bind_eq_some_iff.2 ⟨_, fraction, ?_⟩
  refine Option.bind_eq_some_iff.2 ⟨_, zone, ?_⟩
  simp only [second_back, nanos_back, instant, civil, decide_eq_false (Nat.not_lt.2 day_high)]
  rw [if_neg (by decide), if_pos ⟨low, high⟩]

end CoreTrial.Timestamp
