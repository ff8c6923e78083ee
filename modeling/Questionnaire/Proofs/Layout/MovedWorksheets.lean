import Mathlib.Data.List.Forall2
import Questionnaire.Proofs.Layout.Content
import Questionnaire.Proofs.Layout.MovedColumns

/-!
# Moved worksheets

A form says the same when the columns of its worksheets move, as long as the rows of a worksheet
move alike and the order of columns is kept where it counts.

Main definitions:

* `Worksheet.Moved`, `Workbook.Moved`: the columns of the worksheets have moved.

Results:

* `SurveySheet.content_moved`, `ChoicesSheet.content_moved`, `Settings.ofWorksheet_moved`: what the
  worksheets say stays the same.
* `Survey.ofWorkbook_moved`: so does the survey, or the error.
-/

namespace Questionnaire

variable {f : ℕ → ℕ}

/-! ## Worksheets -/

/-- The columns of the filled rows have all moved alike, and the order is kept where it counts. -/
structure Worksheet.Moved (sheet : SheetKind) (f : ℕ → ℕ) (worksheet other : Worksheet) : Prop where
  rows : List.Forall₂ (Row.Moved f) worksheet.filledRows other.filledRows
  order : ∀ header ∈ worksheet.filledRows.head?, (Header.ofRow sheet header).OrderKept f

/-- Vacant rows are still vacant. -/
theorem Worksheet.filledRows_moved {worksheet other : Worksheet}
    (h : List.Forall₂ (Row.Moved f) worksheet.rows other.rows) :
    List.Forall₂ (Row.Moved f) worksheet.filledRows other.filledRows := by
  refine List.rel_filter (fun row moved hrow => ?_) h
  show (!row.isVacant) = true ↔ (!moved.isVacant) = true
  rw [hrow.isVacant]

/-- The columns of a table have moved. -/
structure SheetTable.Moved (sheet : SheetKind) (f : ℕ → ℕ) (table other : SheetTable) : Prop where
  header : ∃ row moved, row.Moved f moved ∧ (Header.ofRow sheet row).OrderKept f ∧
    table.header = .ofRow sheet row ∧ other.header = .ofRow sheet moved
  content : List.Forall₂ (Row.Moved f) table.content other.content

theorem Worksheet.Moved.bind_table {α β : Type} {sheet : SheetKind} {worksheet other : Worksheet}
    (h : worksheet.Moved sheet f other) {read : SheetTable → Except FormError α} {g : α → β}
    (hread : ∀ table moved : SheetTable, table.Moved sheet f moved →
      (read moved).map g = (read table).map g) :
    (other.table sheet >>= read).map g = (worksheet.table sheet >>= read).map g := by
  obtain ⟨hrows, horder⟩ := h
  unfold table
  generalize worksheet.filledRows = rows at hrows horder
  generalize other.filledRows = moved at hrows
  cases hrows with
  | nil => rfl
  | cons hheader hcontent =>
    cases hcontent with
    | nil => rfl
    | cons hfirst hothers =>
      exact hread _ _ ⟨⟨_, _, hheader, horder _ rfl, rfl, rfl⟩, .cons hfirst hothers⟩

/-- Rows that are read alike make up the same content. -/
theorem map_eq_of_moved {α : Type} {read moved : Row → α}
    (hread : ∀ row other : Row, row.Moved f other → moved other = read row) {rows others : List Row}
    (h : List.Forall₂ (Row.Moved f) rows others) : others.map moved = rows.map read := by
  induction h with
  | nil => rfl
  | cons hrow _ ih => rw [List.map_cons, List.map_cons, hread _ _ hrow, ih]

theorem SurveySheet.content_moved {worksheet other : Worksheet}
    (h : worksheet.Moved .survey f other) :
    (ofWorksheet other).map content = (ofWorksheet worksheet).map content := by
  refine h.bind_table fun table moved ⟨⟨row, row', hrow, horder, hheader, hmoved⟩, hcontent⟩ => ?_
  rw [hheader, hmoved, SurveyColumns.find_moved hrow horder]
  cases SurveyColumns.find (.ofRow .survey row) with
  | error fault => rfl
  | ok columns =>
    have hrows : moved.content.map (columns.move f).read = table.content.map columns.read :=
      map_eq_of_moved (fun _ _ hrow => columns.read_move hrow) hcontent
    have hlanguages (cluster : Option Cluster) : (cluster.map (Cluster.move f)).map
        Cluster.languages = cluster.map Cluster.languages := by
      cases cluster with
      | none => rfl
      | some cluster => exact congrArg some cluster.languages_move
    show Except.ok (SurveyContent.mk _ _ _) = Except.ok (SurveyContent.mk _ _ _)
    rw [hrows]
    simp only [SurveyColumns.move, hlanguages]

theorem ChoicesSheet.content_moved {worksheet other : Worksheet}
    (h : worksheet.Moved .choices f other) :
    (ofWorksheet other).map content = (ofWorksheet worksheet).map content := by
  refine h.bind_table fun table moved ⟨⟨row, row', hrow, horder, hheader, hmoved⟩, hcontent⟩ => ?_
  rw [hheader, hmoved, ChoicesColumns.find_moved hrow horder]
  cases ChoicesColumns.find (.ofRow .choices row) with
  | error fault => rfl
  | ok columns =>
    have hrows : moved.content.map (columns.move f).read = table.content.map columns.read :=
      map_eq_of_moved (fun _ _ hrow => columns.read_move hrow) hcontent
    show Except.ok (ChoicesContent.mk _ _) = Except.ok (ChoicesContent.mk _ _)
    simp only [ChoicesSheet.list, hrows]
    exact congrArg (fun languages => Except.ok (ChoicesContent.mk languages _))
      columns.label.languages_move

/-- Settings do not know their columns. -/
theorem Settings.ofWorksheet_moved {worksheet other : Worksheet}
    (h : worksheet.Moved .settings f other) : ofWorksheet other = ofWorksheet worksheet := by
  suffices hid : (ofWorksheet other).map id = (ofWorksheet worksheet).map id by
    rwa [Except.map_id, id, id] at hid
  refine h.bind_table fun table moved ⟨⟨row, row', hrow, horder, hheader, hmoved⟩, hcontent⟩ => ?_
  obtain ⟨header, first, others⟩ := table
  obtain ⟨header', first', others'⟩ := moved
  obtain ⟨hfirst, -⟩ := List.forall₂_cons.1 hcontent
  have hcell (title : String) : (header'.anyColumn? [title]).bind first'.text =
      (header.anyColumn? [title]).bind first.text := by
    have hheader : header = .ofRow .settings row := hheader
    have hmoved : header' = .ofRow .settings row' := hmoved
    rw [hheader, hmoved, Header.anyColumn?_moved hrow horder, hfirst.bind_text]
  simp only [hcell]

/-! ## Workbooks -/

/-- Each of the three worksheets is there or not, and its columns may have moved. -/
def Workbook.Moved (workbook other : Workbook) : Prop :=
  ∀ sheet : SheetKind, Option.Rel (fun worksheet moved => ∃ f, worksheet.Moved sheet f moved)
    (workbook.worksheet? sheet.title) (other.worksheet? sheet.title)

/-- Worksheets are found by their names, so only those that are found need to have moved. -/
theorem Workbook.Moved.of_forall₂ {workbook other : Workbook}
    (h : List.Forall₂ (fun worksheet moved => moved.name = worksheet.name ∧
      ∀ sheet : SheetKind, workbook.worksheet? sheet.title = some worksheet →
        ∃ f, worksheet.Moved sheet f moved) workbook.worksheets other.worksheets) :
    workbook.Moved other :=
  fun sheet => rel_worksheet? h sheet

/-- Columns that have moved say the same. -/
theorem Workbook.Moved.saysSame {workbook other : Workbook} (h : workbook.Moved other) :
    workbook.SaysSame other := by
  intro sheet
  have hmoved := h sheet
  generalize workbook.worksheet? sheet.title = worksheet at hmoved ⊢
  generalize other.worksheet? sheet.title = moved at hmoved ⊢
  cases hmoved with
  | none => exact .none
  | some hmoved =>
    obtain ⟨f, hmoved⟩ := hmoved
    refine .some ?_
    cases sheet with
    | survey => exact SurveySheet.content_moved hmoved
    | choices => exact ChoicesSheet.content_moved hmoved
    | settings => exact Settings.ofWorksheet_moved hmoved

/-- A workbook whose columns have moved has the same survey or the same error. -/
theorem Survey.ofWorkbook_moved {workbook other : Workbook} (h : workbook.Moved other)
    (options : Options) : ofWorkbook other options = ofWorkbook workbook options :=
  ofWorkbook_congr h.saysSame options

end Questionnaire
