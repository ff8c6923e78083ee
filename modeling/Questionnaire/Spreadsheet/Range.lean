import Questionnaire.Spreadsheet.Cell
import Questionnaire.Workbook

/-!
# Ranges of cells

The cells of a worksheet come as a range: the rectangle from the first to the last position, both
counted from 0. The rows of the worksheet keep their numbers, and empty cells stand in front of the
first column, so that every cell is found where the spreadsheet has it.

Main definitions:

* `Range.worksheet`: the worksheet of a range.
-/

namespace Questionnaire

/-- The position of a cell. -/
structure Position where
  row : Nat
  column : Nat
  deriving DecidableEq

/-- A rectangle of cells, given by its corners and what is in it; a range without a start has no
rows. -/
structure Range where
  start : Option Position
  stop : Position
  cell : Position → Cell

namespace Range

/-- The cells from the first to the last column, behind an empty cell for every column in front
of them. -/
def rowCells (range : Range) (start : Position) (row : Nat) : List (Option String) :=
  List.replicate start.column none
    ++ (List.range (range.stop.column + 1 - start.column)).map fun offset =>
      (range.cell ⟨row, start.column + offset⟩).text?

/-- The rows from the first to the last, numbered from 1 at the top of the worksheet. -/
def rows (range : Range) : List Row :=
  match range.start with
  | none => []
  | some start =>
    (List.range (range.stop.row + 1 - start.row)).map fun offset =>
      { number := UInt32.ofNat (start.row + offset + 1)
        cells := range.rowCells start (start.row + offset) }

def worksheet (range : Range) (name : String) : Worksheet := ⟨name, range.rows⟩

end Range

end Questionnaire
