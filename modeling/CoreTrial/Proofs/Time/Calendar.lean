import CoreTrial.Time.Timestamp

/-!
# The days of the calendar

A number of days names one day of the calendar, and this day gives the number back. A day is found
by its era of 400 years, its year in this era, and its place in this year. Years begin in March, so
that a leap day is the last one of its year.
-/

set_option autoImplicit false

namespace CoreTrial.CalendarDay

/-- The year of an era in which a day of the era lies. -/
def yearOfEra (dayOfEra : Int) : Int :=
  (dayOfEra - dayOfEra / 1460 + dayOfEra / 36524 - dayOfEra / 146096) / 365

/-- The days of an era before a year. -/
def daysBefore (year : Int) : Int := 365 * year + year / 4 - year / 100

/-- The place in its year of a day of an era. -/
def dayOfYear (dayOfEra : Int) : Int := dayOfEra - daysBefore (yearOfEra dayOfEra)

/-- The month of a day of a year, counted from March. -/
def monthOfYear (dayOfYear : Int) : Int := (5 * dayOfYear + 2) / 153

/-- The month of the calendar. -/
def civilMonth (month : Int) : Nat :=
  if month < 10 then (month + 3).toNat else (month - 9).toNat

/-- The day of the month of a day of a year. -/
def dayOfMonth (dayOfYear : Int) : Nat :=
  (dayOfYear - (153 * monthOfYear dayOfYear + 2) / 5 + 1).toNat

/-- The parts of the day of a number. -/
theorem ofDays_eq (n : Int) :
    let dayOfEra := (n + 719468) % 146097
    let month := civilMonth (monthOfYear (dayOfYear dayOfEra))
    let year := yearOfEra dayOfEra + (n + 719468) / 146097 * 400
    ofDays n =
      ⟨if month ≤ 2 then year + 1 else year, month, dayOfMonth (dayOfYear dayOfEra)⟩ := rfl

section Year

variable {dayOfEra century year : Int}

/-- But for the last day of an era, which is a leap day, its centuries have the same length. -/
theorem century_of_yearOfEra (first : 0 ≤ dayOfEra) (last : dayOfEra < 146096)
    (hc : dayOfEra / 36524 = century) (hy : (dayOfEra - dayOfEra / 1460 + century) / 365 = year) :
    year / 100 = century ∧ (dayOfEra / 1460 = year / 4 ∨ dayOfEra / 1460 = year / 4 + 1) := by
  have four : century = 0 ∨ century = 1 ∨ century = 2 ∨ century = 3 := by omega
  rcases four with rfl | rfl | rfl | rfl
  all_goals omega

theorem dayOfYear_of_century (first : 0 ≤ dayOfEra) (last : dayOfEra < 146096)
    (hc : dayOfEra / 36524 = century) (hy : (dayOfEra - dayOfEra / 1460 + century) / 365 = year) :
    0 ≤ dayOfEra - daysBefore year ∧ dayOfEra - daysBefore year < 366 ∧
      (dayOfEra - daysBefore year = 365 → year % 4 = 3 ∧ year % 100 ≠ 99) := by
  obtain ⟨same, leaps⟩ := century_of_yearOfEra first last hc hy
  have four : century = 0 ∨ century = 1 ∨ century = 2 ∨ century = 3 := by omega
  rw [daysBefore, same]
  refine ⟨?_, ?_, fun end_of_year => ?_⟩
  all_goals
    rcases four with rfl | rfl | rfl | rfl
    all_goals omega

end Year

variable {dayOfEra place : Int}

theorem yearOfEra_bounds (first : 0 ≤ dayOfEra) (last : dayOfEra < 146097) :
    0 ≤ yearOfEra dayOfEra ∧ yearOfEra dayOfEra < 400 := by
  unfold yearOfEra
  omega

/-- A year has 365 days, or one more if the next year of the calendar is a leap year. -/
theorem dayOfYear_bounds (first : 0 ≤ dayOfEra) (last : dayOfEra < 146097) :
    0 ≤ dayOfYear dayOfEra ∧ dayOfYear dayOfEra < 366 ∧
      (dayOfYear dayOfEra = 365 → isLeapYear (yearOfEra dayOfEra + 1) = true) := by
  by_cases leap_day : dayOfEra = 146096
  · subst leap_day
    decide
  · have before : dayOfEra < 146096 := by omega
    have years : (dayOfEra - dayOfEra / 1460 + dayOfEra / 36524) / 365 = yearOfEra dayOfEra := by
      unfold yearOfEra
      omega
    obtain ⟨nonneg, below, leap⟩ := dayOfYear_of_century first before rfl years
    refine ⟨nonneg, below, fun end_of_year => ?_⟩
    obtain ⟨fourth, no_century⟩ := leap end_of_year
    simp only [isLeapYear, Bool.and_eq_true, Bool.or_eq_true, beq_iff_eq, bne_iff_ne]
    omega

/-- A leap year stays one when whole eras are added. -/
theorem isLeapYear_add_era (year era : Int) :
    isLeapYear (year + era * 400) = isLeapYear year := by
  have fourth : (year + era * 400) % 4 = year % 4 := by omega
  have century : (year + era * 400) % 100 = year % 100 := by omega
  have era_same : (year + era * 400) % 400 = year % 400 := by omega
  rw [isLeapYear, fourth, century, era_same]
  rfl

theorem monthOfYear_bounds (nonneg : 0 ≤ place) (below : place < 366) :
    0 ≤ monthOfYear place ∧ monthOfYear place < 12 := by
  unfold monthOfYear
  omega

/-- The days of the months before, and the day of the month. -/
theorem dayOfMonth_cast (place : Int) :
    (153 * monthOfYear place + 2) / 5 + dayOfMonth place - 1 = place ∧ 1 ≤ dayOfMonth place := by
  unfold dayOfMonth monthOfYear
  omega

theorem civilMonth_bounds {month : Int} (nonneg : 0 ≤ month) (below : month < 12) :
    1 ≤ civilMonth month ∧ civilMonth month ≤ 12 ∧ ((civilMonth month : Int) + 9) % 12 = month := by
  unfold civilMonth
  split
  all_goals omega

/-- No month has more than 31 days. -/
theorem daysInMonth_le (year : Int) (month : Nat) : daysInMonth year month ≤ 31 := by
  unfold daysInMonth
  split
  · split
    all_goals decide
  · split
    all_goals decide

/-- A day lies in its month. -/
theorem dayOfMonth_le (nonneg : 0 ≤ place) (below : place < 366) {year : Int}
    (leap : place = 365 → isLeapYear year = true) :
    dayOfMonth place ≤ daysInMonth year (civilMonth (monthOfYear place)) := by
  obtain ⟨cast, -⟩ := dayOfMonth_cast place
  have february : daysInMonth year 2 = 29 ∨ daysInMonth year 2 = 28 ∧ place < 365 := by
    by_cases leap_year : isLeapYear year = true
    · exact .inl (if_pos leap_year)
    · exact .inr ⟨if_neg leap_year, by have := mt leap leap_year; omega⟩
  have months : monthOfYear place = (5 * place + 2) / 153 := rfl
  have twelve : monthOfYear place = 0 ∨ monthOfYear place = 1 ∨ monthOfYear place = 2 ∨
      monthOfYear place = 3 ∨ monthOfYear place = 4 ∨ monthOfYear place = 5 ∨
      monthOfYear place = 6 ∨ monthOfYear place = 7 ∨ monthOfYear place = 8 ∨
      monthOfYear place = 9 ∨ monthOfYear place = 10 ∨ monthOfYear place = 11 := by
    obtain ⟨first, last⟩ := monthOfYear_bounds nonneg below
    omega
  rcases twelve with m | m | m | m | m | m | m | m | m | m | m | m
  all_goals
    rw [m] at cast months ⊢
    simp only [civilMonth, Int.reduceLT, Int.reduceAdd, Int.reduceSub, Int.reduceToNat, if_true,
      if_false]
    first
    | omega
    | simp only [daysInMonth, Nat.reduceEqDiff, if_false, or_false, or_true, if_true]
      omega

/-- The day of a number is a day of the calendar. -/
theorem ofDays_valid (n : Int) :
    1 ≤ (ofDays n).month ∧ (ofDays n).month ≤ 12 ∧ 1 ≤ (ofDays n).day ∧
      (ofDays n).day ≤ daysInMonth (ofDays n).year (ofDays n).month := by
  have first : 0 ≤ (n + 719468) % 146097 := by omega
  have last : (n + 719468) % 146097 < 146097 := by omega
  rw [ofDays_eq]
  generalize (n + 719468) % 146097 = dayOfEra at *
  generalize (n + 719468) / 146097 = era at *
  obtain ⟨nonneg, below, leap⟩ := dayOfYear_bounds first last
  obtain ⟨march, february⟩ := monthOfYear_bounds nonneg below
  obtain ⟨low, high, -⟩ := civilMonth_bounds march february
  refine ⟨low, high, (dayOfMonth_cast _).2, dayOfMonth_le nonneg below fun end_of_year => ?_⟩
  -- The leap day of a year lies in the February of the next one.
  have month : civilMonth (monthOfYear (dayOfYear dayOfEra)) = 2 := by
    rw [end_of_year]
    rfl
  have year : yearOfEra dayOfEra + era * 400 + 1 = yearOfEra dayOfEra + 1 + era * 400 := by omega
  rw [month, if_pos (Nat.le_refl 2), year, isLeapYear_add_era]
  exact leap end_of_year

/-- The day of a number of days gives the number back. -/
theorem toDays_ofDays (n : Int) : (ofDays n).toDays = n := by
  have first : 0 ≤ (n + 719468) % 146097 := by omega
  have last : (n + 719468) % 146097 < 146097 := by omega
  have whole : (n + 719468) / 146097 * 146097 + (n + 719468) % 146097 - 719468 = n := by omega
  rw [ofDays_eq]
  generalize (n + 719468) % 146097 = dayOfEra at *
  generalize (n + 719468) / 146097 = era at *
  obtain ⟨nonneg, below, -⟩ := dayOfYear_bounds first last
  obtain ⟨march, february⟩ := monthOfYear_bounds nonneg below
  obtain ⟨-, -, month⟩ := civilMonth_bounds march february
  obtain ⟨year_nonneg, year_below⟩ := yearOfEra_bounds first last
  obtain ⟨days, -⟩ := dayOfMonth_cast (dayOfYear dayOfEra)
  have year (m : Nat) : (if m ≤ 2 then
      (if m ≤ 2 then yearOfEra dayOfEra + era * 400 + 1 else yearOfEra dayOfEra + era * 400) - 1
      else if m ≤ 2 then yearOfEra dayOfEra + era * 400 + 1 else yearOfEra dayOfEra + era * 400) =
      yearOfEra dayOfEra + era * 400 := by
    split
    · omega
    · rfl
  have era_back : (yearOfEra dayOfEra + era * 400) / 400 = era := by omega
  have year_back : (yearOfEra dayOfEra + era * 400) % 400 = yearOfEra dayOfEra := by omega
  have place : dayOfYear dayOfEra = dayOfEra - daysBefore (yearOfEra dayOfEra) := rfl
  dsimp only [toDays]
  rw [year, month, era_back, year_back, days, place, daysBefore]
  omega

end CoreTrial.CalendarDay
