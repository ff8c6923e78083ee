import Questionnaire.Text.Digits

/-!
# Dates and times

Spreadsheets count the days from 30 December 1899. The calendar is the Gregorian one, also before
its introduction.

Main definitions:

* `Date.ofDay`: the date of a day.
* `Moment.ofSecond`: the date and the time of a second.
* `momentText`: how a second is written.
-/

namespace Questionnaire.Calendar

structure Date where
  year : Nat
  month : Nat
  day : Nat
  deriving DecidableEq

/-- The day on which the count starts, counted from 1 March of the year 0. -/
def firstDay : Nat := 693899

/-- The days of four hundred years. -/
def eraDays : Nat := 146097

/-- The date of a day counted from 1 March of the year 0. Years are counted from March on, so that
a leap day is the last day of its year; five months from March or August on have 153 days. -/
def dateFromMarch (day : Nat) : Date :=
  let era := day / eraDays
  let dayOfEra := day % eraDays
  let yearOfEra :=
    (dayOfEra - dayOfEra / 1460 + dayOfEra / 36524 - dayOfEra / 146096) / 365
  let dayOfYear := dayOfEra - (365 * yearOfEra + yearOfEra / 4 - yearOfEra / 100)
  let monthFromMarch := (5 * dayOfYear + 2) / 153
  let year := 400 * era + yearOfEra
  { year := if monthFromMarch < 10 then year else year + 1
    month := if monthFromMarch < 10 then monthFromMarch + 3 else monthFromMarch - 9
    day := dayOfYear - (153 * monthFromMarch + 2) / 5 + 1 }

/-- The date of a day of the count. -/
def Date.ofDay (day : Nat) : Date := dateFromMarch (firstDay + day)

/-- The time of a day. -/
structure Time where
  hour : Nat
  minute : Nat
  second : Nat
  deriving DecidableEq

def daySeconds : Nat := 86400

/-- The time at a second of a day. -/
def Time.ofSecond (second : Nat) : Time :=
  ⟨second / 3600, second / 60 % 60, second % 60⟩

/-! ## Texts -/

/-- Years have four digits; a longer year follows a plus sign. -/
def yearText (year : Nat) : List Char :=
  if year < 10000 then Text.padded 4 year else '+' :: Text.digits year

def Date.text (date : Date) : List Char :=
  yearText date.year ++ '-' :: Text.padded 2 date.month ++ '-' :: Text.padded 2 date.day

def Time.text (time : Time) : List Char :=
  Text.padded 2 time.hour ++ ':' :: Text.padded 2 time.minute ++ ':' :: Text.padded 2 time.second

/-- The second of the count is written as a time on the first day, as a date at the start of
another day, and as both otherwise. -/
def momentText (second : Nat) : List Char :=
  let date := Date.ofDay (second / daySeconds)
  let time := Time.ofSecond (second % daySeconds)
  if second < daySeconds then time.text
  else if second % daySeconds = 0 then date.text
  else date.text ++ ' ' :: time.text

end Questionnaire.Calendar
