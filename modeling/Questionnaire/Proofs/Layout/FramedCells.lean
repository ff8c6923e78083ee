import Mathlib.Data.List.Sort
import Questionnaire.Proofs.Layout.Blanks
import Questionnaire.Spreadsheet.Range

/-!
# Framed cells

A spreadsheet has a cell at every position, most of them empty, and a range is the frame through
which a worksheet is seen. The frame does not count as long as no cell with something in it is left
out: the rows and columns that a wider frame adds are blank, and every other cell is found at its
own place, whatever the corner that the frame starts from.

Main definitions:

* `Range.Frames`: the range shows the cells of a worksheet and leaves out only empty ones.
* `Range.Locates`: the rows are numbered one by one, and every cell stands in the row and column of
  its position.

Results:

* `Range.Frames.locates`: cells are found at their positions.
* `Range.Frames.filledIndices_eq`: the rows with a text are the same in all frames.
* `Survey.ofWorkbook_ofRanges`: the survey is the same in all frames.
-/

namespace Questionnaire

/-- The worksheets of the ranges. -/
def Workbook.ofRanges (ranges : List (String × Range)) : Workbook :=
  ⟨ranges.map fun (name, range) => range.worksheet name⟩

namespace Range

/-! ## Frames -/

/-- The position lies between the corners. -/
def Holds (range : Range) (position : Position) : Prop :=
  ∃ start ∈ range.start,
    (start.row ≤ position.row ∧ position.row ≤ range.stop.row) ∧
      start.column ≤ position.column ∧ position.column ≤ range.stop.column

instance (range : Range) (position : Position) : Decidable (range.Holds position) :=
  decidable_of_iff (range.start.any (fun start =>
    (start.row ≤ position.row ∧ position.row ≤ range.stop.row) ∧
      start.column ≤ position.column ∧ position.column ≤ range.stop.column) = true)
    (by simp [Holds, Option.any_eq_true])

/-- The range shows the cells of a worksheet. Nothing is known about what it has beyond its
corners. -/
structure Frames (range : Range) (cells : Position → Cell) : Prop where
  shows : ∀ position, range.Holds position → range.cell position = cells position
  covers : ∀ position, cells position ≠ .empty → range.Holds position
  /-- The row after the last one can still be numbered. -/
  numbered : range.start.isSome → range.stop.row < UInt32.size - 1

/-- The rows are numbered one by one. The cell at a position stands in the row numbered from 1 and
at the index of its column, and there is nothing else. -/
structure Locates (range : Range) (cells : Position → Cell) : Prop where
  consecutive : ∃ first,
    range.rows.map (·.number.toNat) = List.range' (first + 1) range.rows.length
  found : ∀ position, range.Holds position → ∃ row ∈ range.rows,
    row.number.toNat = position.row + 1 ∧
      row.cells[position.column]? = some (cells position).text?
  nothingElse : ∀ row ∈ range.rows, ∀ column, ∃ index, row.number.toNat = index + 1 ∧
    row.cells[column]?.join = (cells ⟨index, column⟩).text?

/-! ## Rows by their positions -/

/-- The positions of the rows. -/
def rowIndices (range : Range) : List ℕ :=
  match range.start with
  | none => []
  | some start => List.range' start.row (range.stop.row + 1 - start.row)

/-- The row at a position. -/
def rowAt (range : Range) (index : ℕ) : Row where
  number := UInt32.ofNat (index + 1)
  cells := (range.start.map fun start => range.rowCells start index).getD []

theorem rows_eq (range : Range) : range.rows = range.rowIndices.map range.rowAt := by
  unfold rows rowIndices
  cases hstart : range.start with
  | none => rfl
  | some start =>
    dsimp only
    rw [List.range'_eq_map_range, List.map_map]
    refine List.map_congr_left fun offset _ => ?_
    rw [Function.comp_apply, rowAt, hstart]
    rfl

theorem pairwise_rowIndices (range : Range) : range.rowIndices.Pairwise (· < ·) := by
  unfold rowIndices
  cases range.start with
  | none => exact .nil
  | some start => exact List.pairwise_lt_range' 1

theorem mem_rowIndices_iff {range : Range} {index : ℕ} :
    index ∈ range.rowIndices ↔
      ∃ start ∈ range.start, start.row ≤ index ∧ index ≤ range.stop.row := by
  unfold rowIndices
  cases range.start with
  | none => simp
  | some start =>
    simp only [List.mem_range'_1, Option.mem_def, Option.some.injEq, exists_eq_left']
    omega

theorem Holds.mem_rowIndices {range : Range} {position : Position} (h : range.Holds position) :
    position.row ∈ range.rowIndices := by
  obtain ⟨start, hstart, hrow, -⟩ := h
  exact mem_rowIndices_iff.2 ⟨start, hstart, hrow⟩

/-- The columns in front of the range are empty, those behind it are missing. -/
theorem getElem?_rowCells (range : Range) (start : Position) (row column : ℕ) :
    (range.rowCells start row)[column]? =
      if column < start.column then some none
      else if column ≤ range.stop.column then some (range.cell ⟨row, column⟩).text? else none := by
  rw [rowCells, List.getElem?_append, List.length_replicate]
  split
  · rename_i hlt
    rw [List.getElem?_replicate, if_pos hlt]
  · rename_i hle
    split
    · have hoffset : column - start.column < range.stop.column + 1 - start.column := by omega
      rw [List.getElem?_map, List.getElem?_range hoffset, Option.map_some,
        Nat.add_sub_cancel' (Nat.le_of_not_lt hle)]
    · refine List.getElem?_eq_none ?_
      rw [List.length_map, List.length_range]
      omega

theorem Frames.empty_of_not_holds {range : Range} {cells : Position → Cell}
    (h : range.Frames cells) {position : Position} (hout : ¬ range.Holds position) :
    cells position = .empty :=
  not_imp_comm.1 (h.covers position) hout

section

variable {range other : Range} {cells : Position → Cell} (h : range.Frames cells)
  (h' : other.Frames cells)

include h

/-! ## Cells at their positions -/

theorem Frames.getElem?_cells_rowAt {position : Position} (hp : range.Holds position) :
    (range.rowAt position.row).cells[position.column]? = some (cells position).text? := by
  have hshown := h.shows position hp
  obtain ⟨start, hstart, -, hcolumn, hcolumn'⟩ := hp
  rw [rowAt, Option.mem_def.1 hstart]
  show (range.rowCells start position.row)[position.column]? = _
  rw [getElem?_rowCells, if_neg (Nat.not_lt.2 hcolumn), if_pos hcolumn', hshown]

theorem Frames.join_cells_rowAt {index : ℕ} (hindex : index ∈ range.rowIndices) (column : ℕ) :
    (range.rowAt index).cells[column]?.join = (cells ⟨index, column⟩).text? := by
  by_cases hp : range.Holds ⟨index, column⟩
  · rw [h.getElem?_cells_rowAt hp]
    rfl
  · obtain ⟨start, hstart, hrow⟩ := mem_rowIndices_iff.1 hindex
    have hcolumn : column < start.column ∨ ¬ column ≤ range.stop.column := by
      by_contra hwithin
      obtain ⟨hle, hle'⟩ := not_or.1 hwithin
      exact hp ⟨start, hstart, hrow, Nat.le_of_not_lt hle, not_not.1 hle'⟩
    rw [h.empty_of_not_holds hp, rowAt, Option.mem_def.1 hstart]
    show ((range.rowCells start index)[column]?).join = none
    rw [getElem?_rowCells]
    split
    · rfl
    · rename_i hle
      rw [if_neg (hcolumn.resolve_left hle)]
      rfl

theorem Frames.toNat_number_rowAt {index : ℕ} (hindex : index ∈ range.rowIndices) :
    (range.rowAt index).number.toNat = index + 1 := by
  obtain ⟨start, hstart, -, hle⟩ := mem_rowIndices_iff.1 hindex
  have hlast := h.numbered (Option.isSome_iff_exists.2 ⟨start, hstart⟩)
  exact UInt32.toNat_ofNat_of_lt' (by omega)

/-- Cells are found at their positions. -/
theorem Frames.locates : range.Locates cells where
  consecutive := by
    have hnumbers : range.rows.map (·.number.toNat) = range.rowIndices.map (· + 1) := by
      rw [rows_eq, List.map_map]
      exact List.map_congr_left fun index hindex => h.toNat_number_rowAt hindex
    have hlength : range.rows.length = range.rowIndices.length := by rw [rows_eq, List.length_map]
    rw [hnumbers, hlength]
    unfold rowIndices
    cases range.start with
    | none => exact ⟨0, rfl⟩
    | some start =>
      refine ⟨start.row, ?_⟩
      dsimp only
      rw [List.length_range', List.range'_eq_map_range, List.range'_eq_map_range, List.map_map]
      exact List.map_congr_left fun offset _ => by rw [Function.comp_apply]; omega
  found := by
    intro position hp
    have hindex := hp.mem_rowIndices
    refine ⟨range.rowAt position.row, ?_, h.toNat_number_rowAt hindex, h.getElem?_cells_rowAt hp⟩
    rw [rows_eq]
    exact List.mem_map_of_mem hindex
  nothingElse := by
    intro row hrow column
    rw [rows_eq] at hrow
    obtain ⟨index, hindex, rfl⟩ := List.mem_map.1 hrow
    exact ⟨index, h.toNat_number_rowAt hindex, h.join_cells_rowAt hindex column⟩

/-! ## Rows with a text -/

theorem Frames.text_rowAt {index : ℕ} (hindex : index ∈ range.rowIndices) (column : ℕ) :
    (range.rowAt index).text column = cellText (cells ⟨index, column⟩).text? := by
  rw [← h.join_cells_rowAt hindex, Row.text]
  cases (range.rowAt index).cells[column]? <;> rfl

omit h in
/-- The positions of the rows with a text. -/
def filledIndices (range : Range) : List ℕ :=
  range.rowIndices.filter fun index => !(range.rowAt index).isVacant

omit h in
theorem filledRows_worksheet (range : Range) (name : String) :
    (range.worksheet name).filledRows = range.filledIndices.map range.rowAt := by
  show range.rows.filter (fun row => !row.isVacant) = _
  rw [rows_eq, List.filter_map]
  rfl

theorem Frames.mem_filledIndices_iff {index : ℕ} :
    index ∈ range.filledIndices ↔ ∃ column, cellText (cells ⟨index, column⟩).text? ≠ none := by
  have hvacant : (!(range.rowAt index).isVacant) = true ↔
      ∃ column, (range.rowAt index).text column ≠ none := by
    rw [Bool.not_eq_true', ← Bool.not_eq_true, Row.isVacant_iff, not_forall]
  rw [filledIndices, List.mem_filter, hvacant]
  constructor
  · rintro ⟨hindex, column, htext⟩
    exact ⟨column, by rwa [h.text_rowAt hindex] at htext⟩
  · rintro ⟨column, htext⟩
    have hfull : cells ⟨index, column⟩ ≠ .empty := fun hempty => htext (by rw [hempty]; rfl)
    have hindex := (h.covers _ hfull).mem_rowIndices
    exact ⟨hindex, column, by rwa [h.text_rowAt hindex]⟩

include h'

/-- The rows with a text are the same in all frames. -/
theorem Frames.filledIndices_eq : other.filledIndices = range.filledIndices := by
  have hmem (index : ℕ) : index ∈ other.filledIndices ↔ index ∈ range.filledIndices := by
    rw [h'.mem_filledIndices_iff, h.mem_filledIndices_iff]
  exact List.Pairwise.eq_of_mem_iff (other.pairwise_rowIndices.filter _)
    (range.pairwise_rowIndices.filter _) hmem

theorem Frames.moved_worksheet (name : String) (sheet : SheetKind) :
    (range.worksheet name).Moved sheet id (other.worksheet name) := by
  refine Worksheet.moved_of_strictMono strictMono_id ?_ sheet
  rw [filledRows_worksheet, filledRows_worksheet, Frames.filledIndices_eq h h',
    List.forall₂_map_left_iff, List.forall₂_map_right_iff, List.forall₂_same]
  intro index hfilled
  have hindex : index ∈ range.rowIndices := List.mem_of_mem_filter hfilled
  have hindex' : index ∈ other.rowIndices := by
    rw [← Frames.filledIndices_eq h h'] at hfilled
    exact List.mem_of_mem_filter hfilled
  exact Row.moved_of_text rfl fun column => by
    rw [h'.text_rowAt hindex', h.text_rowAt hindex]

end

end Range

/-! ## Workbooks -/

/-- The ranges frame the worksheets of a spreadsheet, each under its name. -/
def FramesAll (sheets : List (String × (Position → Cell))) (ranges : List (String × Range)) :
    Prop :=
  List.Forall₂ (fun sheet range => range.1 = sheet.1 ∧ range.2.Frames sheet.2) sheets ranges

theorem FramesAll.moved {sheets : List (String × (Position → Cell))}
    {ranges others : List (String × Range)} (h : FramesAll sheets ranges)
    (h' : FramesAll sheets others) : (Workbook.ofRanges ranges).Moved (.ofRanges others) := by
  refine .of_forall₂ ?_
  suffices hsheets : List.Forall₂ (fun (worksheet moved : Worksheet) =>
      moved.name = worksheet.name ∧ ∀ sheet : SheetKind, ∃ f, worksheet.Moved sheet f moved)
      (Workbook.ofRanges ranges).worksheets (Workbook.ofRanges others).worksheets from
    hsheets.imp fun _ _ hmoved => ⟨hmoved.1, fun sheet _ => hmoved.2 sheet⟩
  unfold Workbook.ofRanges
  rw [List.forall₂_map_left_iff, List.forall₂_map_right_iff]
  induction h generalizing others with
  | nil =>
    cases h'
    exact .nil
  | cons hrange _ ih =>
    cases h' with
    | cons hother hothers =>
      refine .cons ?_ (ih hothers)
      obtain ⟨hname, hframes⟩ := hrange
      obtain ⟨hname', hframes'⟩ := hother
      dsimp only
      rw [hname, hname']
      exact ⟨rfl, fun sheet => ⟨id, hframes.moved_worksheet hframes' _ sheet⟩⟩

/-- The frames through which a spreadsheet is read do not count: the survey is the same or the error
is, and in every frame the cells are found at their positions. -/
theorem Survey.ofWorkbook_ofRanges {sheets : List (String × (Position → Cell))}
    {ranges others : List (String × Range)} (h : FramesAll sheets ranges)
    (h' : FramesAll sheets others) (options : Options) :
    Survey.ofWorkbook (.ofRanges others) options = Survey.ofWorkbook (.ofRanges ranges) options ∧
      List.Forall₂ (fun sheet range => range.2.Locates sheet.2) sheets ranges ∧
      List.Forall₂ (fun sheet range => range.2.Locates sheet.2) sheets others :=
  ⟨Survey.ofWorkbook_moved (h.moved h') options,
    h.imp fun _ _ hframes => hframes.2.locates, h'.imp fun _ _ hframes => hframes.2.locates⟩

/-! ## A worksheet away from the corner -/

/-- The cells of a survey worksheet whose header stands in the second row and third column. A blank
row is below it, and the name of the question is a number. -/
def shiftedCells : List (Position × Cell) :=
  [(⟨1, 2⟩, .text "type"), (⟨1, 3⟩, .text "name"), (⟨1, 4⟩, .text "label"),
    (⟨1, 5⟩, .text "relevant"), (⟨3, 2⟩, .text "text"), (⟨3, 3⟩, .integer 7),
    (⟨3, 4⟩, .text "Which place?")]

/-- The cell among those given, empty when there is none. -/
def cellAmong (entries : List (Position × Cell)) (position : Position) : Cell :=
  ((entries.find? fun entry => entry.1 = position).map Prod.snd).getD .empty

theorem frames_cellAmong {entries : List (Position × Cell)} {start stop : Position}
    (hheld : ∀ entry ∈ entries, Range.Holds ⟨start, stop, cellAmong entries⟩ entry.1)
    (hlast : stop.row < UInt32.size - 1) :
    Range.Frames ⟨start, stop, cellAmong entries⟩ (cellAmong entries) where
  shows := fun _ _ => rfl
  covers := by
    intro position hfull
    unfold cellAmong at hfull
    cases hfound : entries.find? fun entry => entry.1 = position with
    | none => exact absurd (by rw [hfound]; rfl) hfull
    | some entry =>
      have hposition : entry.1 = position := of_decide_eq_true (List.find?_some hfound :)
      exact hposition ▸ hheld entry (List.mem_of_find?_eq_some hfound)
  numbered := fun _ => hlast

/-- The tight frame of a worksheet, and one that starts at the corner and ends further on. -/
theorem ofWorkbook_ofRanges_shiftedCells :
    let tight : Range := ⟨some ⟨1, 2⟩, ⟨3, 5⟩, cellAmong shiftedCells⟩
    let wide : Range := ⟨some ⟨0, 0⟩, ⟨8, 7⟩, cellAmong shiftedCells⟩
    (FramesAll [("survey", cellAmong shiftedCells)] [("survey", tight)] ∧
      FramesAll [("survey", cellAmong shiftedCells)] [("survey", wide)]) ∧
      Survey.ofWorkbook (.ofRanges [("survey", wide)]) {} =
        Survey.ofWorkbook (.ofRanges [("survey", tight)]) {} ∧
      (Survey.ofWorkbook (.ofRanges [("survey", tight)]) {}).toOption.isSome := by
  intro tight wide
  have htight : FramesAll [("survey", cellAmong shiftedCells)] [("survey", tight)] :=
    .cons ⟨rfl, frames_cellAmong (by decide) (by decide)⟩ .nil
  have hwide : FramesAll [("survey", cellAmong shiftedCells)] [("survey", wide)] :=
    .cons ⟨rfl, frames_cellAmong (by decide) (by decide)⟩ .nil
  exact ⟨⟨htight, hwide⟩, (Survey.ofWorkbook_ofRanges htight hwide {}).1, by decide +kernel⟩

end Questionnaire
