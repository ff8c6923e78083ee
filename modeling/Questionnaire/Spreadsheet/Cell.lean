import Questionnaire.Calendar
import Questionnaire.Number.Shortest

/-!
# Cells of a spreadsheet

A cell of a spreadsheet holds a typed value. A form only knows texts, so every value has one;
errors and empty cells have none.

Main definitions:

* `Cell`, `Cell.text?`: the values and their texts.
* `serialText?`: the text of a date.
-/

namespace Questionnaire

open Number (Binary64)

inductive Cell where
  | text (text : String)
  | integer (value : Int)
  | number (value : Binary64)
  | truth (value : Bool)
  /-- A date as a number of days. -/
  | date (serial : Binary64)
  | fault
  | empty
  deriving DecidableEq

/-- The decimal text of an integer. -/
def integerText (n : Int) : String :=
  String.ofList (Number.signText (n < 0) ++ Text.digits n.natAbs)

/-! ## Numbers -/

/-- The whole number below `10^15` that a number is equal to, if it is. -/
def wholeNumber? : Binary64 → Option Int
  | .finite negative significand exponent =>
    let ratio := Binary64.scaled significand exponent
    if ratio.1 % ratio.2 = 0 ∧ ratio.1 < Number.tenTo 15 * ratio.2 then
      some (if negative then -((ratio.1 / ratio.2 : Nat) : Int) else (ratio.1 / ratio.2 : Nat))
    else none
  | _ => none

/-- A number without fraction is written like an integer, unless it is very large. -/
def numberText (value : Binary64) : String :=
  match wholeNumber? value with
  | some n => integerText n
  | none => value.text

/-! ## Dates -/

/-- Dates reach up to this number of days. -/
def serialLimit : Nat := 3000000

/-- The whole number nearest to a magnitude, a half going up. -/
def roundedMagnitude : Binary64 → Nat
  | .finite _ significand exponent =>
    let ratio := Binary64.scaled significand exponent
    Number.roundUp ratio.1 ratio.2
  | _ => 0

/-- The seconds of a number of days, if a date has so many days. -/
def serialSeconds? (serial : Binary64) : Option Nat :=
  match serial with
  | .finite negative significand exponent =>
    let ratio := Binary64.scaled significand exponent
    if (negative = true ∧ significand ≠ 0) ∨ serialLimit * ratio.2 ≤ ratio.1 then none
    else some (roundedMagnitude (serial.mul (.ofDecimal false Calendar.daySeconds 0)))
  | _ => none

/-- The text of a date; a number that is no date is written as a number. -/
def serialText (serial : Binary64) : String :=
  match serialSeconds? serial with
  | some seconds => String.ofList (Calendar.momentText seconds)
  | none => serial.text

/-- The text of a cell. -/
def Cell.text? : Cell → Option String
  | .text s => some s
  | .integer value => some (integerText value)
  | .number value => some (numberText value)
  | .truth value => some (if value then "TRUE" else "FALSE")
  | .date serial => some (serialText serial)
  | .fault | .empty => none

end Questionnaire
