import Mathlib.Data.List.Basic
import Questionnaire.Proofs.Calendar.Dates
import Questionnaire.Proofs.Text.Digits

/-!
# Reading moments

The text of a second of the count says when it is: a time on the first day, a date, or both. It is
read by its form alone: `HH:MM:SS`, `YYYY-MM-DD`, or a date, a space and a time; years of more than
four digits stand behind a plus sign. No two seconds have one text.

Main definitions:

* `Moment`, `Moment.second`: what a text says, and the second of the count that it is.
* `Moment.Suits`: which of the three forms a second is written in.
* `Moment.read?`: reading a text.

Results:

* `Moment.read?_text`: every moment is read from its text.
* `Moment.second_ofSecond`: the moment of a second is that second.
* `momentText_injective`: different seconds have different texts.
-/

namespace Questionnaire.Calendar

/-! ## Moments -/

/-- A time on the first day, the start of a day, or a time of a day. -/
inductive Moment where
  | onFirstDay (time : Time)
  | dayStart (date : Date)
  | during (date : Date) (time : Time)
  deriving DecidableEq

namespace Moment

def Valid : Moment → Prop
  | onFirstDay time => time.Valid
  | dayStart date => date.Valid
  | during date time => date.Valid ∧ time.Valid

def text : Moment → List Char
  | onFirstDay time => time.text
  | dayStart date => date.text
  | during date time => date.text ++ ' ' :: time.text

end Moment

/-- The days from the first day of the count to a date. -/
def Date.days (date : Date) : ℤ := date.number - Date.first.number

theorem Date.days_ofDay (day : ℕ) : (Date.ofDay day).days = day := by
  rw [Date.days, (Date.ofDay_spec day).2]
  omega

/-- The seconds from the start of the count. -/
def Moment.second : Moment → ℤ
  | onFirstDay time => time.seconds
  | dayStart date => date.days * daySeconds
  | during date time => date.days * daySeconds + time.seconds

/-- A second is written in this form: a time on the first day, a date at the start of another day,
and both otherwise. -/
def Moment.Suits (second : ℕ) : Moment → Prop
  | onFirstDay _ => second < daySeconds
  | dayStart _ => daySeconds ≤ second ∧ second % daySeconds = 0
  | during _ _ => daySeconds ≤ second ∧ second % daySeconds ≠ 0

/-! ## Reading -/

/-- A year has four digits, or more behind a plus sign, the first of which is not zero. -/
def readYear? : List Char → Option ℕ
  | '+' :: cs =>
    if 4 < cs.length ∧ cs.all Text.isDigit = true ∧ cs.head? ≠ some '0' then some (Text.number cs)
    else none
  | cs => Text.readDigits? 4 cs

def Date.read? (cs : List Char) : Option Date :=
  match cs.splitOn '-' with
  | [year, month, day] =>
    return ⟨← readYear? year, ← Text.readDigits? 2 month, ← Text.readDigits? 2 day⟩
  | _ => none

def Time.read? (cs : List Char) : Option Time :=
  match cs.splitOn ':' with
  | [hour, minute, second] =>
    return ⟨← Text.readDigits? 2 hour, ← Text.readDigits? 2 minute, ← Text.readDigits? 2 second⟩
  | _ => none

def Moment.read? (cs : List Char) : Option Moment :=
  match cs.splitOn ' ' with
  | [part] => (Time.read? part).map .onFirstDay <|> (Date.read? part).map .dayStart
  | [date, time] => return .during (← Date.read? date) (← Time.read? time)
  | _ => none

/-! ## Parts of a text -/

section Parts

variable {sep : Char} {first second third : List Char}

theorem splitOn_three (hfirst : sep ∉ first) (hsecond : sep ∉ second) (hthird : sep ∉ third) :
    (first ++ sep :: second ++ sep :: third).splitOn sep = [first, second, third] := by
  have hjoined : first ++ sep :: second ++ sep :: third =
      [sep].intercalate [first, second, third] := by
    simp [List.intercalate]
  rw [hjoined]
  refine List.splitOn_intercalate sep ?_ (List.cons_ne_nil _ _)
  simp [hfirst, hsecond, hthird]

theorem splitOn_two (hfirst : sep ∉ first) (hsecond : sep ∉ second) :
    (first ++ sep :: second).splitOn sep = [first, second] := by
  have hjoined : first ++ sep :: second = [sep].intercalate [first, second] := by
    simp [List.intercalate]
  rw [hjoined]
  refine List.splitOn_intercalate sep ?_ (List.cons_ne_nil _ _)
  simp [hfirst, hsecond]

theorem splitOn_one (hfirst : sep ∉ first) : first.splitOn sep = [first] := by
  refine List.splitOnP_eq_singleton fun c hc => ?_
  exact beq_eq_false_iff_ne.2 (ne_of_mem_of_not_mem hc hfirst)

end Parts

theorem not_mem_padded {c : Char} (hc : Text.isDigit c = false) (width n : ℕ) :
    c ∉ Text.padded width n := by
  intro h
  rw [Text.isDigit_of_mem_padded h] at hc
  cases hc

theorem not_mem_yearText {c : Char} (hc : Text.isDigit c = false) (hplus : c ≠ '+') (year : ℕ) :
    c ∉ yearText year := by
  unfold yearText
  split
  · exact not_mem_padded hc 4 year
  · rw [List.mem_cons, not_or]
    refine ⟨hplus, fun h => ?_⟩
    rw [Text.isDigit_of_mem_digits h] at hc
    cases hc

theorem not_mem_dateText {c : Char} (hc : Text.isDigit c = false) (hplus : c ≠ '+')
    (hminus : c ≠ '-') (date : Date) : c ∉ date.text := by
  simp [Date.text, hminus, not_mem_padded hc, not_mem_yearText hc hplus]

theorem not_mem_timeText {c : Char} (hc : Text.isDigit c = false) (hcolon : c ≠ ':')
    (time : Time) : c ∉ time.text := by
  simp [Time.text, hcolon, not_mem_padded hc]

/-! ## What is written is read -/

theorem readYear?_yearText (year : ℕ) : readYear? (yearText year) = some year := by
  unfold yearText
  split
  · rename_i hlt
    have hplus : '+' ∉ Text.padded 4 year := not_mem_padded (by decide) 4 year
    rw [readYear?.eq_2 (Text.padded 4 year) fun cs heq => hplus (heq ▸ List.mem_cons_self)]
    exact Text.readDigits?_padded hlt
  · rename_i hge
    have hlength : 4 < (Text.digits year).length :=
      Nat.lt_of_not_le fun hle => hge (Text.length_digits_le_iff.1 hle)
    have hall : (Text.digits year).all Text.isDigit = true :=
      List.all_eq_true.2 fun c hc => Text.isDigit_of_mem_digits hc
    rw [readYear?, if_pos ⟨hlength, hall, Text.head?_digits (by omega)⟩, Text.number_digits]

theorem Date.read?_text {date : Date} (h : date.Valid) : Date.read? date.text = some date := by
  have hmonth : date.month < 10 ^ (1 + 1) := Nat.lt_of_le_of_lt h.month_le (by decide)
  have hday : date.day < 10 ^ (1 + 1) := by
    have hdays : monthDays date.year date.month ≤ 31 := by
      unfold monthDays
      split
      · split <;> decide
      all_goals decide
    exact Nat.lt_of_le_of_lt (h.day_le.trans hdays) (by decide)
  unfold Date.read? Date.text
  rw [splitOn_three (not_mem_yearText (by decide) (by decide) _) (not_mem_padded (by decide) _ _)
    (not_mem_padded (by decide) _ _)]
  simp only [readYear?_yearText, Text.readDigits?_padded hmonth, Text.readDigits?_padded hday]
  rfl

theorem Time.read?_text {time : Time} (h : time.Valid) : Time.read? time.text = some time := by
  have hhour : time.hour < 10 ^ (1 + 1) := h.hour_lt.trans (by decide)
  have hminute : time.minute < 10 ^ (1 + 1) := h.minute_lt.trans (by decide)
  have hsecond : time.second < 10 ^ (1 + 1) := h.second_lt.trans (by decide)
  unfold Time.read? Time.text
  rw [splitOn_three (not_mem_padded (by decide) _ _) (not_mem_padded (by decide) _ _)
    (not_mem_padded (by decide) _ _)]
  simp only [Text.readDigits?_padded hhour, Text.readDigits?_padded hminute,
    Text.readDigits?_padded hsecond]
  rfl

theorem Time.read?_dateText (date : Date) : Time.read? date.text = none := by
  unfold Time.read?
  rw [splitOn_one (not_mem_dateText (by decide) (by decide) (by decide) date)]

/-- Every moment is read from its text. -/
theorem Moment.read?_text {moment : Moment} (h : moment.Valid) :
    Moment.read? moment.text = some moment := by
  have hdate (date : Date) : ' ' ∉ date.text :=
    not_mem_dateText (by decide) (by decide) (by decide) date
  have htime (time : Time) : ' ' ∉ time.text := not_mem_timeText (by decide) (by decide) time
  unfold Moment.read? Moment.text
  cases moment with
  | onFirstDay time =>
    dsimp only
    rw [splitOn_one (htime time)]
    simp only [Time.read?_text h]
    rfl
  | dayStart date =>
    dsimp only
    rw [splitOn_one (hdate date)]
    simp only [Time.read?_dateText, Date.read?_text h]
    rfl
  | during date time =>
    dsimp only
    rw [splitOn_two (hdate date) (htime time)]
    simp only [Date.read?_text h.1, Time.read?_text h.2]
    rfl

/-! ## The moment of a second -/

namespace Moment

def ofSecond (second : ℕ) : Moment :=
  if second < daySeconds then .onFirstDay (Time.ofSecond second)
  else if second % daySeconds = 0 then .dayStart (Date.ofDay (second / daySeconds))
  else .during (Date.ofDay (second / daySeconds)) (Time.ofSecond (second % daySeconds))

theorem text_ofSecond (second : ℕ) : (ofSecond second).text = momentText second := by
  unfold ofSecond momentText
  split
  · rename_i hlt
    rw [Nat.mod_eq_of_lt hlt]
    rfl
  · split <;> rfl

theorem valid_ofSecond (second : ℕ) : (ofSecond second).Valid := by
  have hmod : second % daySeconds < daySeconds := Nat.mod_lt _ (by decide)
  unfold ofSecond
  split
  · rename_i hlt
    exact (Time.ofSecond_spec hlt).1
  · split
    · exact (Date.ofDay_spec _).1
    · exact ⟨(Date.ofDay_spec _).1, (Time.ofSecond_spec hmod).1⟩

theorem suits_ofSecond (second : ℕ) : (ofSecond second).Suits second := by
  unfold ofSecond
  split
  · assumption
  · rename_i hge
    split
    · rename_i hzero
      exact ⟨Nat.le_of_not_lt hge, hzero⟩
    · rename_i hne
      exact ⟨Nat.le_of_not_lt hge, hne⟩

/-- The moment of a second is that second. -/
theorem second_ofSecond (second : ℕ) : (ofSecond second).second = second := by
  have hmod : second % daySeconds < daySeconds := Nat.mod_lt _ (by decide)
  have hdiv := Nat.div_add_mod second daySeconds
  unfold ofSecond
  split
  · rename_i hlt
    exact congrArg (Nat.cast : ℕ → ℤ) (Time.ofSecond_spec hlt).2
  · split
    · rename_i hzero
      rw [hzero, Nat.add_zero, Nat.mul_comm] at hdiv
      rw [Moment.second, Date.days_ofDay]
      exact_mod_cast hdiv
    · rw [Nat.mul_comm] at hdiv
      rw [Moment.second, Date.days_ofDay, (Time.ofSecond_spec hmod).2]
      exact_mod_cast hdiv

end Moment

theorem read?_momentText (second : ℕ) :
    Moment.read? (momentText second) = some (Moment.ofSecond second) := by
  rw [← Moment.text_ofSecond]
  exact Moment.read?_text (Moment.valid_ofSecond second)

/-- Different seconds have different texts. -/
theorem momentText_injective : Function.Injective momentText := by
  intro second other h
  have hread := read?_momentText second
  rw [h, read?_momentText] at hread
  have hmoment := congrArg Moment.second (Option.some.inj hread)
  rw [Moment.second_ofSecond, Moment.second_ofSecond] at hmoment
  exact (Int.ofNat_inj.1 hmoment).symm

end Questionnaire.Calendar
