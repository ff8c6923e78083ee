import Mathlib.Algebra.BigOperators.Intervals
import Mathlib.Tactic.IntervalCases
import Questionnaire.Calendar

/-!
# Dates of the Gregorian calendar

What the calendar says, year by year and month by month: which years are leap years, how long the
months are, and how many days lie before a date. The date of a day is computed the other way round,
by divisions, from spans of four hundred, a hundred, four years and one year that begin in March.

Main definitions:

* `IsLeap`, `monthDays`, `Date.Valid`, `Date.number`: the calendar.
* `EraPlace`: the place of a day among four hundred years.
* `Time.Valid`, `Time.seconds`: the times of a day.

Results:

* `dateFromMarch_spec`, `Date.ofDay_spec`: the date of a day is a date of the calendar, with that
  day's number.
* `Time.ofSecond_spec`: so is the time of a second.
-/

namespace Questionnaire.Calendar

open Finset

/-! ## The calendar -/

/-- Every fourth year is a leap year, but of those that end a century only every fourth. -/
def IsLeap (year : ℕ) : Prop := year % 4 = 0 ∧ (year % 100 = 0 → year % 400 = 0)

instance : DecidablePred IsLeap := fun year =>
  inferInstanceAs (Decidable (year % 4 = 0 ∧ (year % 100 = 0 → year % 400 = 0)))

def yearDays (year : ℕ) : ℕ := if IsLeap year then 366 else 365

/-- The days of a month, the months being counted from 1. -/
def monthDays (year month : ℕ) : ℕ :=
  match month with
  | 2 => if IsLeap year then 29 else 28
  | 4 | 6 | 9 | 11 => 30
  | _ => 31

/-- The date is one of the calendar. -/
structure Date.Valid (date : Date) : Prop where
  one_le_month : 1 ≤ date.month
  month_le : date.month ≤ 12
  one_le_day : 1 ≤ date.day
  day_le : date.day ≤ monthDays date.year date.month

/-- The number of a date, 1 January of the year 0 being 1. -/
def Date.number (date : Date) : ℕ :=
  ∑ year ∈ range date.year, yearDays year +
    ∑ month ∈ Ico 1 date.month, monthDays date.year month + date.day

/-! ## Years and months -/

/-- The days from 1 March of the year 0 to 1 March of a year. -/
def daysToMarch (year : ℕ) : ℕ := 365 * year + year / 4 - year / 100 + year / 400

theorem daysToMarch_succ (year : ℕ) :
    daysToMarch (year + 1) = daysToMarch year + yearDays (year + 1) := by
  have hcentury : (year + 1) % 100 = 0 → (year + 1) % 4 = 0 := by omega
  have hera : (year + 1) % 400 = 0 → (year + 1) % 100 = 0 := by omega
  have hle : year / 100 ≤ 365 * year := by omega
  unfold daysToMarch yearDays
  simp only [Nat.succ_div, Nat.dvd_iff_mod_eq_zero]
  by_cases hleap : IsLeap (year + 1)
  · rw [if_pos hleap]
    unfold IsLeap at hleap
    split_ifs <;> omega
  · rw [if_neg hleap]
    unfold IsLeap at hleap
    split_ifs <;> omega

theorem sum_yearDays (year : ℕ) : ∑ y ∈ range (year + 1), yearDays y = daysToMarch year + 366 := by
  induction year with
  | zero => rfl
  | succ year ih =>
    rw [sum_range_succ, ih, daysToMarch_succ]
    exact Nat.add_right_comm _ _ _

theorem yearDays_eq (year : ℕ) : yearDays year = 337 + monthDays year 2 := by
  show (if IsLeap year then 366 else 365) = 337 + if IsLeap year then 29 else 28
  split <;> rfl

/-- From March to December, the months have the lengths of rounded multiples of 153 fifths. -/
theorem monthDays_march (year : ℕ) {month : ℕ} (h : month < 10) :
    monthDays year (month + 3) = (153 * (month + 1) + 2) / 5 - (153 * month + 2) / 5 := by
  interval_cases month <;> rfl

theorem sum_monthDays_march (year : ℕ) {month : ℕ} (h : month < 10) :
    ∑ m ∈ Ico 1 (month + 3), monthDays year m =
      31 + monthDays year 2 + (153 * month + 2) / 5 := by
  induction month with
  | zero => rfl
  | succ month ih =>
    have hmonth := monthDays_march year (Nat.lt_of_succ_lt h)
    rw [show month + 1 + 3 = month + 3 + 1 by omega, sum_Ico_succ_top (by omega),
      ih (Nat.lt_of_succ_lt h), hmonth]
    omega

/-! ## Four hundred years -/

/-- The place of a day among four hundred years that begin in March: the whole centuries, spans of
four years and years in front of it, and the days of its year. A leap day ends four years, but no
century except the last. -/
structure EraPlace where
  century : ℕ
  fourYears : ℕ
  year : ℕ
  day : ℕ
  century_le : century ≤ 3
  fourYears_le : fourYears ≤ 24
  year_le : year ≤ 3
  day_le : day ≤ 365
  leapDay : day = 365 → year = 3 ∧ (fourYears = 24 → century = 3)

namespace EraPlace

def dayOfEra (place : EraPlace) : ℕ :=
  36524 * place.century + 1461 * place.fourYears + 365 * place.year + place.day

def yearOfEra (place : EraPlace) : ℕ := 100 * place.century + 4 * place.fourYears + place.year

/-- Every day has its place. -/
theorem exists_dayOfEra_eq {day : ℕ} (h : day < eraDays) :
    ∃ place : EraPlace, place.dayOfEra = day := by
  have heraDays : eraDays = 146097 := rfl
  obtain ⟨century, dayOfCentury, hcentury, hlast, hleap, rfl⟩ : ∃ century dayOfCentury,
      century ≤ 3 ∧ dayOfCentury ≤ 36524 ∧ (dayOfCentury = 36524 → century = 3) ∧
        day = 36524 * century + dayOfCentury :=
    ⟨min 3 (day / 36524), day - 36524 * min 3 (day / 36524),
      by omega, by omega, by omega, by omega⟩
  obtain ⟨fourYears, dayOfFour, hfour, hdayOfFour, rfl⟩ : ∃ fourYears dayOfFour,
      fourYears ≤ 24 ∧ dayOfFour < 1461 ∧ dayOfCentury = 1461 * fourYears + dayOfFour := by
    clear hleap h
    exact ⟨dayOfCentury / 1461, dayOfCentury % 1461, by omega, by omega, by omega⟩
  obtain ⟨year, rest, hyear, hrest, hleapYear, rfl⟩ : ∃ year rest,
      year ≤ 3 ∧ rest ≤ 365 ∧ (rest = 365 → year = 3) ∧ dayOfFour = 365 * year + rest := by
    clear hleap hlast h
    exact ⟨min 3 (dayOfFour / 365), dayOfFour - 365 * min 3 (dayOfFour / 365),
      by omega, by omega, by omega, by omega⟩
  refine ⟨⟨century, fourYears, year, rest, hcentury, hfour, hyear, hrest, fun hday => ?_⟩, ?_⟩
  · exact ⟨hleapYear hday, by omega⟩
  · show 36524 * century + 1461 * fourYears + 365 * year + rest = _
    omega

variable (place : EraPlace)

theorem yearOfEra_lt : place.yearOfEra < 400 := by
  have := place.century_le
  have := place.fourYears_le
  have := place.year_le
  unfold yearOfEra
  omega

theorem yearOfEra_div_four : place.yearOfEra / 4 = 25 * place.century + place.fourYears := by
  have := place.year_le
  unfold yearOfEra
  omega

theorem yearOfEra_div_hundred : place.yearOfEra / 100 = place.century := by
  have := place.fourYears_le
  have := place.year_le
  unfold yearOfEra
  omega

theorem dayOfEra_eq :
    place.dayOfEra =
      365 * place.yearOfEra + place.yearOfEra / 4 - place.yearOfEra / 100 + place.day := by
  rw [yearOfEra_div_four, yearOfEra_div_hundred]
  unfold dayOfEra yearOfEra
  omega

theorem dayOfEra_lt : place.dayOfEra < eraDays := by
  have hday := place.dayOfEra_eq
  have := place.yearOfEra_lt
  have := place.day_le
  have hleap := place.leapDay
  have hyear : place.yearOfEra = 100 * place.century + 4 * place.fourYears + place.year := rfl
  have heraDays : eraDays = 146097 := rfl
  omega

/-- A leap day is the last of a year in which the leap year begins. -/
theorem isLeap_of_day_eq (h : place.day = 365) (era : ℕ) :
    IsLeap (400 * era + place.yearOfEra + 1) := by
  obtain ⟨hyear, hcentury⟩ := place.leapDay h
  have := place.fourYears_le
  unfold IsLeap yearOfEra
  rw [hyear]
  omega

/-! ### The divisions -/

theorem dayOfEra_div_centuries :
    place.dayOfEra / 36524 = place.century + place.dayOfEra / 146096 := by
  obtain ⟨rest, hrest, hlast, hday⟩ : ∃ rest, rest ≤ 36524 ∧ (rest = 36524 → place.century = 3) ∧
      place.dayOfEra = 36524 * place.century + rest := by
    have := place.fourYears_le
    have := place.year_le
    have := place.day_le
    have := place.leapDay
    refine ⟨1461 * place.fourYears + 365 * place.year + place.day, by omega, by omega, ?_⟩
    unfold dayOfEra
    omega
  have := place.century_le
  omega

/-- Dividing by the shorter four years counts the leap days, but for those of the own year. -/
theorem dayOfEra_div_leapDays : ∃ leapDays, leapDays ≤ place.day ∧ place.day - leapDays < 365 ∧
    place.dayOfEra / 1460 = 25 * place.century + place.fourYears + leapDays := by
  have := place.century_le
  have := place.fourYears_le
  have := place.year_le
  have := place.day_le
  have hleap : place.day = 365 → place.year = 3 := fun h => (place.leapDay h).1
  refine ⟨(24 * place.century + place.fourYears + 365 * place.year + place.day) / 1460,
    by omega, by omega, ?_⟩
  unfold dayOfEra
  omega

theorem yearOfEra_eq :
    (place.dayOfEra - place.dayOfEra / 1460 + place.dayOfEra / 36524 - place.dayOfEra / 146096) /
      365 = place.yearOfEra := by
  obtain ⟨leapDays, hle, hlt, hdiv⟩ := place.dayOfEra_div_leapDays
  rw [dayOfEra_div_centuries, hdiv]
  unfold dayOfEra yearOfEra
  omega

end EraPlace

/-! ## Dates -/

/-- The months of a year that begins in March. -/
theorem month_spec {day month : ℕ} (hday : day ≤ 365) (hmonth : month = (5 * day + 2) / 153) :
    month < 12 ∧ (153 * month + 2) / 5 ≤ day ∧ day < (153 * (month + 1) + 2) / 5 := by
  omega

/-- The days in front of a year that begins in March. -/
theorem daysBefore_march (era : ℕ) (place : EraPlace) {year : ℕ}
    (hyear : year = 400 * era + place.yearOfEra) :
    eraDays * era + place.dayOfEra = daysToMarch year + place.day := by
  have heraDays : eraDays = 146097 := rfl
  have hday := place.dayOfEra_eq
  have hlt := place.yearOfEra_lt
  have hfour : year / 4 = 100 * era + place.yearOfEra / 4 := by omega
  have hhundred : year / 100 = 4 * era + place.yearOfEra / 100 := by omega
  have hera : year / 400 = era := by omega
  rw [daysToMarch, hfour, hhundred, hera, hday, heraDays]
  omega

/-- From March to December the year is the one that began in March. -/
theorem march_spec (year : ℕ) {month : ℕ} (day : ℕ) (hmonth : month < 10)
    (hday : day < (153 * (month + 1) + 2) / 5 - (153 * month + 2) / 5) :
    (Date.mk year (month + 3) (day + 1)).Valid ∧
      (Date.mk year (month + 3) (day + 1)).number =
        daysToMarch year + (153 * month + 2) / 5 + day + 61 := by
  constructor
  · refine ⟨Nat.le_add_left _ _, ?_, Nat.le_add_left _ _, ?_⟩
    · show month + 3 ≤ 12
      omega
    · show day + 1 ≤ monthDays year (month + 3)
      rw [monthDays_march year hmonth]
      omega
  · have hyear := sum_yearDays year
    rw [sum_range_succ, yearDays_eq] at hyear
    show ∑ y ∈ range year, yearDays y + ∑ m ∈ Ico 1 (month + 3), monthDays year m + (day + 1) = _
    rw [sum_monthDays_march year hmonth]
    omega

theorem january_spec (year day : ℕ) (hday : day < 31) :
    (Date.mk (year + 1) 1 (day + 1)).Valid ∧
      (Date.mk (year + 1) 1 (day + 1)).number = daysToMarch year + 306 + day + 61 := by
  constructor
  · exact ⟨le_rfl, (by decide : 1 ≤ 12), Nat.le_add_left _ _, hday⟩
  · show ∑ y ∈ range (year + 1), yearDays y + 0 + (day + 1) = _
    rw [sum_yearDays]
    omega

theorem february_spec (year : ℕ) {day : ℕ} (hday : day < monthDays (year + 1) 2) :
    (Date.mk (year + 1) 2 (day + 1)).Valid ∧
      (Date.mk (year + 1) 2 (day + 1)).number = daysToMarch year + 337 + day + 61 := by
  constructor
  · exact ⟨(by decide : 1 ≤ 2), (by decide : 2 ≤ 12), Nat.le_add_left _ _, hday⟩
  · show ∑ y ∈ range (year + 1), yearDays y + 31 + (day + 1) = _
    rw [sum_yearDays]
    omega

theorem dateFromMarch_eq (era : ℕ) (place : EraPlace) :
    dateFromMarch (eraDays * era + place.dayOfEra) =
      let month := (5 * place.day + 2) / 153
      let year := 400 * era + place.yearOfEra
      { year := if month < 10 then year else year + 1
        month := if month < 10 then month + 3 else month - 9
        day := place.day - (153 * month + 2) / 5 + 1 } := by
  have hera : (eraDays * era + place.dayOfEra) / eraDays = era := by
    rw [Nat.mul_add_div (by decide), Nat.div_eq_of_lt place.dayOfEra_lt, Nat.add_zero]
  have hday : (eraDays * era + place.dayOfEra) % eraDays = place.dayOfEra := by
    rw [Nat.mul_add_mod, Nat.mod_eq_of_lt place.dayOfEra_lt]
  have hrest : place.dayOfEra -
      (365 * place.yearOfEra + place.yearOfEra / 4 - place.yearOfEra / 100) = place.day := by
    have := place.dayOfEra_eq
    omega
  simp only [dateFromMarch, hera, hday, place.yearOfEra_eq, hrest]

/-- The date of a day is one of the calendar. Its number is the day's, 1 March of the year 0 being
61. -/
theorem dateFromMarch_spec (day : ℕ) :
    (dateFromMarch day).Valid ∧ (dateFromMarch day).number = day + 61 := by
  obtain ⟨place, hplace⟩ := EraPlace.exists_dayOfEra_eq (Nat.mod_lt day (by decide : 0 < eraDays))
  have hday : eraDays * (day / eraDays) + place.dayOfEra = day := by
    rw [hplace, Nat.div_add_mod]
  generalize day / eraDays = era at hday
  subst hday
  rw [dateFromMarch_eq, daysBefore_march era place rfl]
  obtain ⟨hlt, hfirst, hlast⟩ := month_spec place.day_le rfl
  have hleap (h : place.day = 365) := place.isLeap_of_day_eq h era
  have hdays := place.day_le
  generalize (5 * place.day + 2) / 153 = month at *
  generalize 400 * era + place.yearOfEra = year at *
  dsimp only
  by_cases hmonth : month < 10
  · rw [if_pos hmonth, if_pos hmonth]
    obtain ⟨hvalid, hnumber⟩ :=
      march_spec year (place.day - (153 * month + 2) / 5) hmonth (by omega)
    exact ⟨hvalid, hnumber.trans (by omega)⟩
  · rw [if_neg hmonth, if_neg hmonth]
    obtain rfl | rfl : month = 10 ∨ month = 11 := by omega
    · obtain ⟨hvalid, hnumber⟩ := january_spec year (place.day - 306) (by omega)
      exact ⟨hvalid, hnumber.trans (by omega)⟩
    · have hfebruary : place.day - 337 < monthDays (year + 1) 2 := by
        show _ < if IsLeap (year + 1) then 29 else 28
        split <;> rename_i hyear
        · omega
        · have hne : place.day ≠ 365 := fun h => hyear (hleap h)
          omega
      obtain ⟨hvalid, hnumber⟩ := february_spec year hfebruary
      exact ⟨hvalid, hnumber.trans (by omega)⟩

/-- The day on which the count starts. -/
def Date.first : Date := ⟨1899, 12, 30⟩

/-- The date of a day of the count is as many days behind the first. -/
theorem Date.ofDay_spec (day : ℕ) :
    (Date.ofDay day).Valid ∧ (Date.ofDay day).number = Date.first.number + day := by
  have hfirst : Date.first.number = firstDay + 61 := (dateFromMarch_spec firstDay).2
  obtain ⟨hvalid, hnumber⟩ := dateFromMarch_spec (firstDay + day)
  refine ⟨hvalid, ?_⟩
  rw [hfirst]
  exact hnumber.trans (by omega)

/-! ## Times -/

/-- The time is one of a day. -/
structure Time.Valid (time : Time) : Prop where
  hour_lt : time.hour < 24
  minute_lt : time.minute < 60
  second_lt : time.second < 60

/-- The seconds of a day up to a time. -/
def Time.seconds (time : Time) : ℕ := 3600 * time.hour + 60 * time.minute + time.second

theorem Time.ofSecond_spec {second : ℕ} (h : second < daySeconds) :
    (Time.ofSecond second).Valid ∧ (Time.ofSecond second).seconds = second := by
  have hdaySeconds : daySeconds = 86400 := rfl
  have hhour : second / 3600 < 24 := by omega
  refine ⟨⟨hhour, Nat.mod_lt _ (by decide), Nat.mod_lt _ (by decide)⟩, ?_⟩
  show 3600 * (second / 3600) + 60 * (second / 60 % 60) + second % 60 = second
  omega

end Questionnaire.Calendar
