import Mathlib
import RepoSurvey.Clock.Moment

/-!
# Days and dates

Counting days from the start of 1970 and naming them by dates are the same: `Date.toDays_ofDays` and
`Date.ofDays_toDays` say so for all days and for all dates of the calendar. `Date.year_ofDays` bounds the
years of days. The years are those of the proleptic calendar, in which the year 0 has its place.
-/

namespace RepoSurvey.Clock.Date

/-- Whether a date stands in the calendar. -/
structure IsValid (date : Date) : Prop where
  monthPositive : 0 < date.month
  monthSmall : date.month ≤ 12
  dayPositive : 0 < date.day
  daySmall : date.day ≤ daysInMonth date.year date.month

/-! ## Years of an era -/

/-- The days of an era before one of its years. -/
def yearBegin (yearOfEra : Nat) : Nat := yearOfEra * 365 + yearOfEra / 4 - yearOfEra / 100

/-- A year of an era has 365 days, and one more before the end of February of a leap year. -/
theorem yearBegin_succ (yearOfEra : Nat) :
    yearBegin (yearOfEra + 1) + (if (yearOfEra + 1) % 100 = 0 then 1 else 0) =
      yearBegin yearOfEra + 365 + (if (yearOfEra + 1) % 4 = 0 then 1 else 0) := by
  unfold yearBegin
  have fours : (yearOfEra + 1) / 4 = yearOfEra / 4 + (if (yearOfEra + 1) % 4 = 0 then 1 else 0) := by
    split <;> omega
  have hundreds : (yearOfEra + 1) / 100 = yearOfEra / 100 + (if (yearOfEra + 1) % 100 = 0 then 1 else 0) := by
    split <;> omega
  omega

/-- The year of an era in which one of its days lies. -/
def yearWithin (dayOfEra : Nat) : Nat :=
  (dayOfEra - dayOfEra / 1460 + dayOfEra / 36524 - dayOfEra / 146096) / 365

/-- Later days lie in later years. -/
theorem yearWithin_mono {earlier later : Nat} (le : earlier ≤ later) (inEra : later ≤ 146096) :
    yearWithin earlier ≤ yearWithin later := by
  apply Nat.div_le_div_right
  have years : later / 1460 + earlier ≤ earlier / 1460 + later := by omega
  have centuries : earlier / 36524 + later / 146096 ≤ later / 36524 + earlier / 146096 := by omega
  omega

/-- A year begins on its first day and not before. -/
theorem yearWithin_yearBegin : ∀ yearOfEra < 400, yearWithin (yearBegin yearOfEra) = yearOfEra ∧
    (yearOfEra = 0 ∨ yearWithin (yearBegin yearOfEra - 1) = yearOfEra - 1) := by
  decide +kernel

/-- The last day of an era lies in its last year. -/
theorem yearWithin_last : yearWithin 146096 = 399 := by decide

/-- The year of a day is the one that has begun by then, while the next one has not. -/
theorem yearWithin_eq_iff {dayOfEra yearOfEra : Nat} (inEra : dayOfEra ≤ 146096)
    (isYear : yearOfEra < 400) :
    yearWithin dayOfEra = yearOfEra ↔
      yearBegin yearOfEra ≤ dayOfEra ∧ (yearOfEra = 399 ∨ dayOfEra < yearBegin (yearOfEra + 1)) := by
  obtain ⟨begins, earlier⟩ := yearWithin_yearBegin yearOfEra isYear
  constructor
  · intro within
    constructor
    · by_contra before
      have le : dayOfEra ≤ yearBegin yearOfEra - 1 := by omega
      have positive : yearOfEra ≠ 0 := by
        rintro rfl
        exact before (Nat.zero_le _)
      have := yearWithin_mono le (by unfold yearBegin; omega)
      omega
    · by_contra after
      obtain ⟨notLast, after⟩ := not_or.mp after
      have next := (yearWithin_yearBegin (yearOfEra + 1) (by omega)).1
      have := yearWithin_mono (Nat.le_of_not_lt after) inEra
      omega
  · rintro ⟨begun, unended⟩
    have lower := yearWithin_mono begun inEra
    rcases unended with rfl | unended
    · have upper := yearWithin_mono inEra (Nat.le_refl _)
      rw [yearWithin_last] at upper
      omega
    · have isNext : yearOfEra + 1 < 400 ∨ yearOfEra = 399 := by omega
      rcases isNext with isNext | rfl
      · have ends := (yearWithin_yearBegin (yearOfEra + 1) isNext).2
        have le : dayOfEra ≤ yearBegin (yearOfEra + 1) - 1 := by omega
        have := yearWithin_mono le (by unfold yearBegin; omega)
        omega
      · have upper := yearWithin_mono inEra (Nat.le_refl _)
        rw [yearWithin_last] at upper
        omega

/-! ## Days of a year from March -/

/-- Whether a year of an era, counted from March, has a day of a number. -/
structure InYear (yearOfEra dayOfYear : Nat) : Prop where
  isYear : yearOfEra < 400
  inEra : yearBegin yearOfEra + dayOfYear ≤ 146096
  inYear : yearOfEra = 399 ∨ yearBegin yearOfEra + dayOfYear < yearBegin (yearOfEra + 1)

/-- The day of an era, a year from March and a day of that year, from the start of 1970. -/
def marchDays (era : Int) (yearOfEra dayOfYear : Nat) : Int :=
  era * 146097 + (yearBegin yearOfEra + dayOfYear : Nat) - 719468

/-- The date of an era, a year from March and a day of that year. -/
def marchDate (era : Int) (yearOfEra dayOfYear : Nat) : Date :=
  let monthFromMarch := (5 * dayOfYear + 2) / 153
  let month := if monthFromMarch < 10 then monthFromMarch + 3 else monthFromMarch - 9
  { year := yearOfEra + era * 400 + (if month ≤ 2 then 1 else 0)
    month := month
    day := dayOfYear - (153 * monthFromMarch + 2) / 5 + 1 }

variable {era : Int} {yearOfEra dayOfYear : Nat}

/-- A year has at most 366 days, and the last of them only before a leap day. -/
theorem InYear.dayOfYear_le (inYear : InYear yearOfEra dayOfYear) :
    dayOfYear ≤ 364 ∨ dayOfYear = 365 ∧
      ((yearOfEra + 1) % 4 = 0 ∧ ((yearOfEra + 1) % 100 ≠ 0 ∨ yearOfEra = 399)) := by
  obtain ⟨isYear, inEra, inYear⟩ := inYear
  have next := yearBegin_succ yearOfEra
  rcases inYear with rfl | inYear
  · have begins : yearBegin 399 = 145731 := rfl
    omega
  · split_ifs at next <;> omega

/-- The date of a day of a year. -/
theorem ofDays_marchDays (inYear : InYear yearOfEra dayOfYear) :
    ofDays (marchDays era yearOfEra dayOfYear) = marchDate era yearOfEra dayOfYear := by
  have shifted : marchDays era yearOfEra dayOfYear + 719468 =
      (yearBegin yearOfEra + dayOfYear : Nat) + 146097 * era := by
    unfold marchDays
    omega
  have inEra := inYear.inEra
  have isEra : (marchDays era yearOfEra dayOfYear + 719468) / 146097 = era := by omega
  have isDay : ((marchDays era yearOfEra dayOfYear + 719468) % 146097).toNat =
      yearBegin yearOfEra + dayOfYear := by omega
  have within : yearWithin (yearBegin yearOfEra + dayOfYear) = yearOfEra :=
    (yearWithin_eq_iff inEra inYear.isYear).mpr ⟨Nat.le_add_right _ _, inYear.inYear⟩
  have isDayOfYear : yearBegin yearOfEra + dayOfYear -
      (365 * yearOfEra + yearOfEra / 4 - yearOfEra / 100) = dayOfYear := by
    unfold yearBegin
    omega
  unfold yearWithin at within
  simp only [ofDays, marchDate, isEra, isDay, within, isDayOfYear]

/-- Every day is a day of a year of an era. -/
theorem exists_marchDays (days : Int) :
    ∃ era yearOfEra dayOfYear, InYear yearOfEra dayOfYear ∧
      days = marchDays era yearOfEra dayOfYear := by
  have inEra : ((days + 719468) % 146097).toNat ≤ 146096 := by omega
  generalize isDay : ((days + 719468) % 146097).toNat = dayOfEra at inEra
  have isYear : yearWithin dayOfEra < 400 := by
    have := yearWithin_mono inEra (Nat.le_refl _)
    rw [yearWithin_last] at this
    omega
  obtain ⟨begun, unended⟩ := (yearWithin_eq_iff inEra isYear).mp rfl
  have whole : yearBegin (yearWithin dayOfEra) + (dayOfEra - yearBegin (yearWithin dayOfEra)) =
      dayOfEra := by omega
  refine ⟨(days + 719468) / 146097, yearWithin dayOfEra,
    dayOfEra - yearBegin (yearWithin dayOfEra), ⟨isYear, ?_, ?_⟩, ?_⟩
  · rw [whole]
    exact inEra
  · rw [whole]
    exact unended
  · unfold marchDays
    rw [whole]
    omega

/-- The day of a date is the day it was made from. -/
theorem toDays_marchDate (inYear : InYear yearOfEra dayOfYear) :
    (marchDate era yearOfEra dayOfYear).toDays = marchDays era yearOfEra dayOfYear := by
  have isYear := inYear.isYear
  have small : dayOfYear ≤ 365 := by
    have := inYear.dayOfYear_le
    omega
  have isMonth : (5 * dayOfYear + 2) / 153 ≤ 11 := by omega
  have begun : (153 * ((5 * dayOfYear + 2) / 153) + 2) / 5 ≤ dayOfYear := by omega
  unfold toDays marchDate marchDays yearBegin
  dsimp only
  generalize (5 * dayOfYear + 2) / 153 = monthFromMarch at isMonth begun
  by_cases early : monthFromMarch < 10
  · simp only [early, if_true]
    rw [if_neg (by omega), if_neg (by omega), if_pos (by omega)]
    rw [show monthFromMarch + 3 - 3 = monthFromMarch by omega]
    generalize (153 * monthFromMarch + 2) / 5 = begin at begun
    omega
  · simp only [early, if_false]
    rw [if_pos (by omega), if_pos (by omega), if_neg (by omega)]
    rw [show monthFromMarch - 9 + 9 = monthFromMarch by omega]
    generalize (153 * monthFromMarch + 2) / 5 = begin at begun
    omega

/-- Counting the days to the date of a day gives the day. -/
@[simp] theorem toDays_ofDays (days : Int) : (ofDays days).toDays = days := by
  obtain ⟨era, yearOfEra, dayOfYear, inYear, rfl⟩ := exists_marchDays days
  rw [ofDays_marchDays inYear, toDays_marchDate inYear]

/-! ## Dates of the calendar -/

/-- Leap years recur with the eras. -/
theorem isLeapYear_iff (year era : Int) (yearOfEra : Nat) (isYear : year = yearOfEra + 1 + era * 400) :
    isLeapYear year = true ↔
      (yearOfEra + 1) % 4 = 0 ∧ ((yearOfEra + 1) % 100 ≠ 0 ∨ (yearOfEra + 1) % 400 = 0) := by
  simp only [isLeapYear, Bool.and_eq_true, Bool.or_eq_true, beq_iff_eq, bne_iff_ne]
  omega

/-- The days of a year are dates of the calendar. -/
theorem isValid_marchDate (inYear : InYear yearOfEra dayOfYear) :
    (marchDate era yearOfEra dayOfYear).IsValid := by
  have isYear := inYear.isYear
  have small := inYear.dayOfYear_le
  have isMonth : (5 * dayOfYear + 2) / 153 ≤ 11 := by omega
  unfold marchDate
  generalize month : (5 * dayOfYear + 2) / 153 = monthFromMarch at isMonth
  rcases Nat.lt_or_ge monthFromMarch 11 with early | february
  · constructor
    · dsimp only
      split <;> omega
    · dsimp only
      split <;> omega
    · exact Nat.succ_pos _
    · dsimp only [daysInMonth]
      interval_cases monthFromMarch <;> simp <;> omega
  · obtain rfl : monthFromMarch = 11 := by omega
    constructor
    · exact Nat.succ_pos _
    · exact Nat.le_of_ble_eq_true rfl
    · exact Nat.succ_pos _
    · have leap := isLeapYear_iff (yearOfEra + era * 400 + 1) era yearOfEra (by omega)
      change dayOfYear - 337 + 1 ≤
        if isLeapYear (yearOfEra + era * 400 + 1) = true then 29 else 28
      split
      · omega
      · next common =>
        rw [leap] at common
        omega

/-- The date of a day is a date of the calendar. -/
theorem isValid_ofDays (days : Int) : (ofDays days).IsValid := by
  obtain ⟨era, yearOfEra, dayOfYear, inYear, rfl⟩ := exists_marchDays days
  rw [ofDays_marchDays inYear]
  exact isValid_marchDate inYear

/-- Every year has 365 days, and one more before a leap day. -/
theorem inYear_of_le (isYear : yearOfEra < 400)
    (small : dayOfYear ≤ 364 ∨ dayOfYear = 365 ∧
      ((yearOfEra + 1) % 4 = 0 ∧ ((yearOfEra + 1) % 100 ≠ 0 ∨ (yearOfEra + 1) % 400 = 0))) :
    InYear yearOfEra dayOfYear := by
  have next := yearBegin_succ yearOfEra
  refine ⟨isYear, ?_, ?_⟩
  · unfold yearBegin
    omega
  · split_ifs at next <;> omega

/-- A date of the calendar is the date of a day of a year. -/
theorem IsValid.exists_march {date : Date} (valid : date.IsValid) :
    ∃ era yearOfEra dayOfYear, InYear yearOfEra dayOfYear ∧
      date = marchDate era yearOfEra dayOfYear := by
  obtain ⟨year, month, day⟩ := date
  obtain ⟨monthPositive, monthSmall, dayPositive, daySmall⟩ := valid
  dsimp only at monthPositive monthSmall dayPositive daySmall
  rcases Nat.lt_or_ge 2 month with late | early
  · -- From March on the year is that of the calendar.
    obtain ⟨monthFromMarch, rfl⟩ : ∃ monthFromMarch, month = monthFromMarch + 3 :=
      ⟨month - 3, by omega⟩
    have inMonth : day ≤ (153 * (monthFromMarch + 1) + 2) / 5 - (153 * monthFromMarch + 2) / 5 := by
      have isMonth : monthFromMarch ≤ 9 := by omega
      unfold daysInMonth at daySmall
      interval_cases monthFromMarch <;> simp at daySmall ⊢ <;> omega
    refine ⟨year / 400, (year % 400).toNat, (153 * monthFromMarch + 2) / 5 + day - 1,
      inYear_of_le (by omega) (.inl (by omega)), ?_⟩
    have back : (5 * ((153 * monthFromMarch + 2) / 5 + day - 1) + 2) / 153 = monthFromMarch := by
      omega
    simp only [marchDate, back, mk.injEq]
    refine ⟨?_, ?_, ?_⟩ <;> (try split) <;> (try split) <;> omega
  · -- January and February end the year before.
    have leap := isLeapYear_iff year ((year - 1) / 400) ((year - 1) % 400).toNat (by omega)
    have inMonth : day ≤ 31 ∧ (month = 2 -> day ≤ 28 ∨ day = 29 ∧ isLeapYear year = true) := by
      unfold daysInMonth at daySmall
      interval_cases month
      · simp at daySmall ⊢
        omega
      · simp only [if_true] at daySmall
        split at daySmall
        · next isLeap =>
          have days : day ≤ 28 ∨ day = 29 := by omega
          exact ⟨by omega, fun _ => days.imp_right fun last => ⟨last, isLeap⟩⟩
        · exact ⟨by omega, fun _ => by omega⟩
    refine ⟨(year - 1) / 400, ((year - 1) % 400).toNat, (153 * (month + 9) + 2) / 5 + day - 1,
      inYear_of_le (by omega) ?_, ?_⟩
    · rw [leap] at inMonth
      interval_cases month
      · omega
      · rcases inMonth.2 rfl with common | ⟨rfl, leap⟩
        · omega
        · exact .inr ⟨rfl, leap⟩
    · have back : (5 * ((153 * (month + 9) + 2) / 5 + day - 1) + 2) / 153 = month + 9 := by
        interval_cases month <;> omega
      simp only [marchDate, back, mk.injEq]
      refine ⟨?_, ?_, ?_⟩ <;> (try split) <;> (try split) <;> omega

/-- The date of the day of a date of the calendar is the date. -/
theorem IsValid.ofDays_toDays {date : Date} (valid : date.IsValid) : ofDays date.toDays = date := by
  obtain ⟨era, yearOfEra, dayOfYear, inYear, rfl⟩ := valid.exists_march
  rw [toDays_marchDate inYear, ofDays_marchDays inYear]

/-- The years of days, from the first day of the year 0 to the last day of the year 9999. -/
theorem year_ofDays (days : Int) (low : -719528 ≤ days) (high : days ≤ 2932896) :
    0 ≤ (ofDays days).year ∧ (ofDays days).year ≤ 9999 := by
  obtain ⟨era, yearOfEra, dayOfYear, inYear, rfl⟩ := exists_marchDays days
  rw [ofDays_marchDays inYear]
  have small : dayOfYear ≤ 365 := by
    have := inYear.dayOfYear_le
    omega
  obtain ⟨isYear, inEra, -⟩ := inYear
  unfold marchDays at low high
  unfold yearBegin at low high inEra
  have lowEra : -1 ≤ era := by omega
  have highEra : era ≤ 24 := by omega
  -- Only the first and the last of these eras reach beyond the years.
  have first : era = -1 -> yearOfEra = 399 ∧ 306 ≤ dayOfYear := by
    rintro rfl
    have : yearOfEra = 399 := by omega
    subst this
    omega
  have last : era = 24 -> yearOfEra = 399 -> dayOfYear ≤ 305 := by
    rintro rfl rfl
    omega
  clear low high inEra
  simp only [marchDate]
  split <;> split <;> omega

end RepoSurvey.Clock.Date
