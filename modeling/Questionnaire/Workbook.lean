import Questionnaire.Text.Blank
import Questionnaire.Text.Digits
import Questionnaire.Text.Search

/-!
# Workbooks

A form arrives as a workbook: named worksheets of rows, each row a number and its cells from the
first column on. A cell holds a text or nothing. Only the trimmed text of a cell is ever looked
at, so a cell of blanks is as good as an empty one.

Results:

* `Row.isVacant_iff`: a row is vacant exactly when none of its columns has a text.
* `Row.text_of_length_le`: there is nothing beyond the last cell.
-/

namespace Questionnaire

/-! ## Rows -/

/-- One row of a worksheet. The number is the one a spreadsheet program shows, from 1; the
position of a cell is its column. -/
structure Row where
  number : UInt32
  cells : List (Option String)
  deriving DecidableEq

/-- The trimmed text of a cell, absent when the cell is missing or blank. -/
def cellText (cell : Option String) : Option String := cell.bind Text.trimmed?

/-- The trimmed text in a column. -/
def Row.text (row : Row) (column : Nat) : Option String := row.cells[column]?.bind cellText

/-- The row has no text at all. -/
def Row.isVacant (row : Row) : Bool := row.cells.all fun cell => (cellText cell).isNone

/-- The row number as it is shown. -/
def Row.reference (row : Row) : String := Text.decimal row.number.toNat

theorem Row.text_of_length_le {row : Row} {column : Nat} (h : row.cells.length ≤ column) :
    row.text column = none := by
  simp [Row.text, List.getElem?_eq_none h]

theorem Row.isVacant_iff {row : Row} : row.isVacant = true ↔ ∀ column, row.text column = none := by
  simp only [Row.isVacant, List.all_eq_true, Option.isNone_iff_eq_none, Row.text]
  constructor
  · intro h column
    cases hc : row.cells[column]? with
    | none => rfl
    | some cell => exact h cell (List.mem_of_getElem? hc)
  · intro h cell hm
    obtain ⟨column, hc⟩ := List.mem_iff_getElem?.1 hm
    have := h column
    rwa [hc] at this

/-! ## Worksheets -/

structure Worksheet where
  name : String
  rows : List Row
  deriving DecidableEq

/-- A worksheet of the given texts, its rows numbered from 1. -/
def Worksheet.ofTexts (name : String) (rows : List (List String)) : Worksheet where
  name := name
  rows := rows.zipIdx.map fun (cells, index) => ⟨UInt32.ofNat (index + 1), cells.map some⟩

/-- The rows with a text, in sheet order. -/
def Worksheet.filledRows (worksheet : Worksheet) : List Row :=
  worksheet.rows.filter fun row => !row.isVacant

/-! ## Workbooks -/

structure Workbook where
  worksheets : List Worksheet
  deriving DecidableEq

/-- The first worksheet with `fragment` in its name. -/
def Workbook.worksheet? (workbook : Workbook) (fragment : String) : Option Worksheet :=
  workbook.worksheets.find? fun worksheet => Text.contains worksheet.name fragment

end Questionnaire
