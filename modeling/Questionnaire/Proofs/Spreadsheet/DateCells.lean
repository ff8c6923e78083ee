import Questionnaire.Proofs.Calendar.Moments
import Questionnaire.Proofs.Number.Rounding
import Questionnaire.Spreadsheet.Cell

/-!
# Cells with dates

A date in a cell is a number of days, rounded to seconds. Its text is read back as the date and the
time of that second, so cells with different seconds have different texts.

Results:

* `serialSeconds?_le`: the seconds that a cell can have.
* `momentText_readsBack`: texts of seconds, and of cells, are read back.
-/

namespace Questionnaire

open Number (Binary64)
open Calendar (Moment momentText daySeconds)

/-! ## Seconds -/

theorem roundedMagnitude_le {value : Binary64} {bound : ℕ} (h : value.Below bound) :
    roundedMagnitude value ≤ bound := by
  cases value with
  | finite negative significand exponent =>
    exact Number.roundUp_le (Binary64.scaled_snd_pos _ _) ((Binary64.scaled_le_iff _ _).2 h)
  | infinite _ => exact h.elim
  | nan => exact h.elim

theorem below_daySeconds : (Binary64.ofDecimal false daySeconds 0).Below daySeconds := by
  refine Binary64.nearest_below false (by decide) ?_ ?_ <;> decide

/-- Rounding does not lead past the last day. -/
theorem serialSeconds?_le {serial : Binary64} {second : ℕ}
    (h : serialSeconds? serial = some second) : second ≤ serialLimit * daySeconds := by
  unfold serialSeconds? at h
  split at h
  · rename_i negative significand exponent
    dsimp only at h
    split at h
    · cases h
    · rename_i hlimit
      obtain rfl := Option.some.inj h
      have hserial : (Binary64.finite negative significand exponent).Below serialLimit :=
        (Binary64.scaled_le_iff _ _).1 (Nat.le_of_not_le fun hle => hlimit (.inr hle))
      exact roundedMagnitude_le (Binary64.mul_below hserial below_daySeconds (by decide))
  · cases h

/-! ## Texts -/

/-- The text of a second is read as a date and a time of the calendar, in the form that suits the
second, and they are as many seconds from the start of the count. So no other second has this text.
The seconds of a cell are among the days that dates reach up to, and their text is the cell's. -/
theorem momentText_readsBack (second : ℕ) :
    (∃ moment, Moment.read? (momentText second) = some moment ∧ moment.Valid ∧
      moment.Suits second ∧ moment.second = second) ∧
    (∀ other, momentText other = momentText second → other = second) ∧
    ∀ serial, serialSeconds? serial = some second →
      second ≤ serialLimit * daySeconds ∧
        Cell.text? (.date serial) = some (String.ofList (momentText second)) := by
  refine ⟨⟨Moment.ofSecond second, Calendar.read?_momentText second,
    Moment.valid_ofSecond second, Moment.suits_ofSecond second, Moment.second_ofSecond second⟩,
    fun other h => Calendar.momentText_injective h, fun serial h => ⟨serialSeconds?_le h, ?_⟩⟩
  rw [Cell.text?, serialText, h]

/-- The first day of the year 10000. -/
theorem momentText_readsBack_farDay :
    serialSeconds? (.ofDecimal false 2958466 0) = some 255611462400 ∧
      255611462400 ≤ serialLimit * daySeconds ∧
      Cell.text? (.date (.ofDecimal false 2958466 0)) = some "+10000-01-01" ∧
      Moment.read? "+10000-01-01".toList = some (.dayStart ⟨10000, 1, 1⟩) := by
  have h : serialSeconds? (.ofDecimal false 2958466 0) = some 255611462400 := by decide +kernel
  obtain ⟨hle, htext⟩ := (momentText_readsBack 255611462400).2.2 _ h
  exact ⟨h, hle, htext.trans (by decide +kernel), by decide +kernel⟩

end Questionnaire
