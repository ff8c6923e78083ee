import Mathlib.Logic.Relation
import Questionnaire.Proofs.Layout.MovedWorksheets
import Questionnaire.Proofs.Text.Tidy

/-!
# Blanks in a workbook

A form is read through trimmed texts and filled rows only. So blanks around a text do not count, nor
do blank cells behind a row or blank columns in front of a worksheet, nor blank rows anywhere, nor
further worksheets of other names.

Main definitions:

* `CellEdit`, `RowEdit`, `WorksheetEdit`, `LayoutEdit`: one change of the layout, of a cell up to a
  workbook.

Results:

* `LayoutEdit.moved`: a change of the layout moves columns in order, if it does anything.
* `Survey.ofWorkbook_eqvGen_layoutEdit`: the survey is the same after any changes of the layout.
-/

namespace Questionnaire

/-! ## Changes of the layout -/

/-- The text has blanks only. -/
def IsBlankText (text : String) : Prop := ∀ c ∈ text.toList, Text.isBlank c = true

instance (text : String) : Decidable (IsBlankText text) :=
  decidable_of_iff (text.toList.all Text.isBlank = true) List.all_eq_true

/-- The cell is absent or has blanks only. -/
def IsBlankCell (cell : Option String) : Prop := ∀ text ∈ cell, IsBlankText text

instance (cell : Option String) : Decidable (IsBlankCell cell) :=
  decidable_of_iff (cell.all (fun text => IsBlankText text) = true)
    (by cases cell <;> simp [IsBlankCell])

inductive CellEdit : Option String → Option String → Prop where
  | trimmed (text : String) : CellEdit (some text) (some (Text.trim text))
  | surrounded (text : String) {before after : String} (hbefore : IsBlankText before)
    (hafter : IsBlankText after) : CellEdit (some text) (some (before ++ text ++ after))
  | emptied {text : String} (h : IsBlankText text) : CellEdit (some text) none

inductive RowEdit : Row → Row → Prop where
  /-- A cell is edited. -/
  | cell {number : UInt32} {before after : List (Option String)} {cell other : Option String}
    (h : CellEdit cell other) :
    RowEdit ⟨number, before ++ cell :: after⟩ ⟨number, before ++ other :: after⟩
  /-- A blank cell is added at the end. -/
  | extended {number : UInt32} {cells : List (Option String)} {cell : Option String}
    (h : IsBlankCell cell) : RowEdit ⟨number, cells⟩ ⟨number, cells ++ [cell]⟩

/-- So many blank cells are put in front of the row. -/
inductive Row.Indented (width : ℕ) : Row → Row → Prop where
  | of_blanks {number : UInt32} {blanks cells : List (Option String)}
    (hwidth : blanks.length = width) (h : ∀ cell ∈ blanks, IsBlankCell cell) :
    Row.Indented width ⟨number, cells⟩ ⟨number, blanks ++ cells⟩

inductive WorksheetEdit : Worksheet → Worksheet → Prop where
  /-- A row is edited. -/
  | row {name : String} {before after : List Row} {row other : Row} (h : RowEdit row other) :
    WorksheetEdit ⟨name, before ++ row :: after⟩ ⟨name, before ++ other :: after⟩
  /-- A blank row is inserted; the others keep their numbers. -/
  | rowInserted {name : String} {before after : List Row} {row : Row}
    (h : ∀ cell ∈ row.cells, IsBlankCell cell) :
    WorksheetEdit ⟨name, before ++ after⟩ ⟨name, before ++ row :: after⟩
  /-- All rows are indented alike. -/
  | indented {name : String} {rows others : List Row} {width : ℕ}
    (h : List.Forall₂ (Row.Indented width) rows others) :
    WorksheetEdit ⟨name, rows⟩ ⟨name, others⟩

inductive LayoutEdit : Workbook → Workbook → Prop where
  /-- A worksheet is edited. -/
  | worksheet {before after : List Worksheet} {worksheet other : Worksheet}
    (h : WorksheetEdit worksheet other) :
    LayoutEdit ⟨before ++ worksheet :: after⟩ ⟨before ++ other :: after⟩
  /-- A worksheet of another name is added. -/
  | worksheetAdded {before after : List Worksheet} {worksheet : Worksheet}
    (h : ∀ sheet : SheetKind, Text.contains worksheet.name sheet.title = false) :
    LayoutEdit ⟨before ++ after⟩ ⟨before ++ worksheet :: after⟩

/-! ## Cells -/

theorem cellText_eq_none_iff {cell : Option String} : cellText cell = none ↔ IsBlankCell cell := by
  cases cell with
  | none => simp [cellText, IsBlankCell]
  | some text =>
    have hnil : Text.trimmed? text = none ↔ Text.trimList text.toList = [] := by
      unfold Text.trimmed?
      cases Text.trimList text.toList <;> simp
    rw [cellText, Option.bind_some, hnil, Text.trimList_eq_nil_iff]
    simp [IsBlankCell, IsBlankText]

theorem cellText_congr {text other : String}
    (h : Text.trimList other.toList = Text.trimList text.toList) :
    cellText (some other) = cellText (some text) := by
  unfold cellText Text.trimmed?
  rw [Option.bind_some, Option.bind_some, h]

theorem CellEdit.cellText_eq {cell other : Option String} (h : CellEdit cell other) :
    cellText other = cellText cell := by
  cases h with
  | trimmed text =>
    refine cellText_congr ?_
    rw [Text.toList_trim, Text.trimList_trimList]
  | surrounded text hbefore hafter =>
    refine cellText_congr ?_
    rw [String.toList_append, String.toList_append, Text.trimList_surrounded hbefore _ hafter]
  | @emptied text hblank =>
    have hcell : IsBlankCell (some text) := fun _ hm => Option.some.inj hm ▸ hblank
    exact (cellText_eq_none_iff.2 hcell).symm

/-! ## Rows -/

/-- A row is known by the trimmed texts of its cells. -/
theorem Row.text_eq (row : Row) (column : ℕ) :
    row.text column = (row.cells.map cellText)[column]?.join := by
  rw [text, List.getElem?_map]
  cases row.cells[column]? <;> rfl

theorem Row.moved_of_text {row other : Row} (hnumber : other.number = row.number)
    (htext : ∀ column, other.text column = row.text column) : row.Moved id other :=
  ⟨hnumber, htext, fun column _ _ => ⟨column, rfl⟩⟩

theorem Row.Moved.refl (row : Row) : row.Moved id row := Row.moved_of_text rfl fun _ => rfl

theorem RowEdit.moved {row other : Row} (h : RowEdit row other) : row.Moved id other := by
  cases h with
  | cell hcell =>
    refine Row.moved_of_text rfl fun column => ?_
    rw [Row.text_eq, Row.text_eq, List.map_append, List.map_append, List.map_cons, List.map_cons,
      hcell.cellText_eq]
  | @extended number cells cell hblank =>
    refine Row.moved_of_text rfl fun column => ?_
    rw [Row.text_eq, Row.text_eq, List.map_append, List.getElem?_append]
    split
    · rfl
    · rename_i hlength
      have hnone : (cells.map cellText)[column]? = none := List.getElem?_eq_none (by omega)
      rw [hnone, List.map_cons, cellText_eq_none_iff.2 hblank]
      cases column - (cells.map cellText).length <;> rfl

theorem Row.Indented.moved {width : ℕ} {row other : Row} (h : row.Indented width other) :
    row.Moved (width + ·) other := by
  obtain ⟨rfl, hblank⟩ := h
  rename_i number blanks cells
  refine ⟨rfl, fun column => ?_, fun column text htext => ?_⟩
  · rw [text, text, List.getElem?_append_right (Nat.le_add_right _ _), Nat.add_sub_cancel_left]
  · refine ⟨column - blanks.length, Nat.add_sub_cancel' (Nat.le_of_not_lt fun hlt => ?_)⟩
    have hnone : cellText blanks[column] = none :=
      cellText_eq_none_iff.2 (hblank _ (List.getElem_mem hlt))
    rw [Row.text, List.getElem?_append_left hlt, List.getElem?_eq_getElem hlt, Option.bind_some,
      hnone] at htext
    cases htext

/-! ## Worksheets -/

/-- Nothing is lost of the order when the columns move in order. -/
theorem Worksheet.moved_of_strictMono {f : ℕ → ℕ} (hf : StrictMono f) {worksheet other : Worksheet}
    (h : List.Forall₂ (Row.Moved f) worksheet.filledRows other.filledRows) (sheet : SheetKind) :
    worksheet.Moved sheet f other :=
  ⟨h, fun _ _ => ⟨hf.injective, fun _ => hf.strictMonoOn _, fun _ _ => hf.strictMonoOn _⟩⟩

theorem Worksheet.Moved.refl (worksheet : Worksheet) (sheet : SheetKind) :
    worksheet.Moved sheet id worksheet :=
  moved_of_strictMono strictMono_id (List.forall₂_same.2 fun row _ => .refl row) sheet

/-- Lists are related entry by entry when one entry gives way to a related one. -/
theorem forall₂_replaced {α : Type} {R : α → α → Prop} (hrefl : ∀ a, R a a) {a b : α} (h : R a b)
    (before after : List α) : List.Forall₂ R (before ++ a :: after) (before ++ b :: after) := by
  have hsame (entries : List α) : List.Forall₂ R entries entries :=
    List.forall₂_same.2 fun a _ => hrefl a
  exact List.rel_append (hsame before) (.cons h (hsame after))

theorem WorksheetEdit.name_eq {worksheet other : Worksheet} (h : WorksheetEdit worksheet other) :
    other.name = worksheet.name := by
  cases h <;> rfl

theorem WorksheetEdit.moved {worksheet other : Worksheet} (h : WorksheetEdit worksheet other)
    (sheet : SheetKind) : ∃ f, worksheet.Moved sheet f other := by
  cases h with
  | row hrow =>
    have hrows := forall₂_replaced Row.Moved.refl hrow.moved
    exact ⟨id, Worksheet.moved_of_strictMono strictMono_id (Worksheet.filledRows_moved (hrows _ _))
      sheet⟩
  | @rowInserted name before after row hblank =>
    have hvacant : row.isVacant = true := by
      refine List.all_eq_true.2 fun cell hm => ?_
      rw [cellText_eq_none_iff.2 (hblank cell hm)]
      rfl
    have hfilled : Worksheet.filledRows ⟨name, before ++ row :: after⟩ =
        Worksheet.filledRows ⟨name, before ++ after⟩ := by
      unfold Worksheet.filledRows
      rw [List.filter_append, List.filter_append, List.filter_cons_of_neg (by simp [hvacant])]
    have hsame := Worksheet.Moved.refl ⟨name, before ++ after⟩ sheet
    exact ⟨id, ⟨by rw [hfilled]; exact hsame.rows, hsame.order⟩⟩
  | @indented name rows others width hrows =>
    have hmono : StrictMono (width + ·) := fun _ _ hlt => Nat.add_lt_add_left hlt width
    exact ⟨_, Worksheet.moved_of_strictMono hmono
      (Worksheet.filledRows_moved (hrows.imp fun _ _ hrow => hrow.moved)) sheet⟩

/-! ## Workbooks -/

theorem LayoutEdit.moved {workbook other : Workbook} (h : LayoutEdit workbook other) :
    workbook.Moved other := by
  cases h with
  | worksheet hedit =>
    refine .of_forall₂ (forall₂_replaced (fun worksheet => ?_) ?_ _ _)
    · exact ⟨rfl, fun sheet _ => ⟨id, .refl worksheet sheet⟩⟩
    · exact ⟨hedit.name_eq, fun sheet _ => hedit.moved sheet⟩
  | @worksheetAdded before after worksheet hname =>
    intro sheet
    have hfound : Workbook.worksheet? ⟨before ++ worksheet :: after⟩ sheet.title =
        Workbook.worksheet? ⟨before ++ after⟩ sheet.title := by
      unfold Workbook.worksheet?
      rw [List.find?_append, List.find?_append, List.find?_cons_of_neg (by simp [hname sheet])]
    rw [hfound]
    cases Workbook.worksheet? ⟨before ++ after⟩ sheet.title with
    | none => exact .none
    | some found => exact .some ⟨id, .refl found sheet⟩

/-- The layout of a workbook does not count: after any changes it has the same survey or the same
error. -/
theorem Survey.ofWorkbook_eqvGen_layoutEdit {workbook other : Workbook}
    (h : Relation.EqvGen LayoutEdit workbook other) (options : Options) :
    Survey.ofWorkbook other options = Survey.ofWorkbook workbook options := by
  induction h with
  | rel workbook other hedit => exact Survey.ofWorkbook_moved hedit.moved options
  | refl workbook => rfl
  | symm workbook other _ ih => exact ih.symm
  | trans workbook middle other _ _ ih ih' => exact ih'.trans ih

/-! ## A form with room around it -/

def visitHeader : Row := ⟨1, [some "type", some "name", some "label", some "relevant"]⟩

def visitRow : Row := ⟨2, [some "text", some "place", some "Which place?"]⟩

def visitWorkbook : Workbook := ⟨[⟨"survey", [visitHeader, visitRow]⟩]⟩

/-- A title has blanks around it, the columns start further right, a blank row stands above the
header, and another worksheet comes first. -/
def spacedVisitWorkbook : Workbook :=
  ⟨[⟨"notes", [visitRow]⟩,
    ⟨"survey",
      [⟨9, [none, some "  "]⟩,
        ⟨1, [none, some "type", some " name\n", some "label", some "relevant"]⟩,
        ⟨2, [some "", some "text", some "place", some "Which place?"]⟩]⟩]⟩

theorem ofWorkbook_spacedVisitWorkbook :
    Survey.ofWorkbook spacedVisitWorkbook {} = Survey.ofWorkbook visitWorkbook {} ∧
      (Survey.ofWorkbook visitWorkbook {}).toOption.isSome := by
  let header : Row := ⟨1, [some "type", some " name\n", some "label", some "relevant"]⟩
  let blank : Row := ⟨9, [some "  "]⟩
  let indented : Worksheet := ⟨"survey",
    [⟨9, none :: blank.cells⟩, ⟨1, none :: header.cells⟩, ⟨2, some "" :: visitRow.cells⟩]⟩
  have hcell : RowEdit visitHeader header :=
    @RowEdit.cell 1 [some "type"] [some "label", some "relevant"] _ _
      (@CellEdit.surrounded "name" " " "\n" (by decide) (by decide))
  have hindented : List.Forall₂ (Row.Indented 1) [blank, header, visitRow] indented.rows :=
    .cons (@Row.Indented.of_blanks 1 9 [none] blank.cells rfl (by decide))
      (.cons (@Row.Indented.of_blanks 1 1 [none] header.cells rfl (by decide))
        (.cons (@Row.Indented.of_blanks 1 2 [some ""] visitRow.cells rfl (by decide)) .nil))
  have hworksheet {worksheet other : Worksheet} (h : WorksheetEdit worksheet other) :
      Relation.EqvGen LayoutEdit ⟨[worksheet]⟩ ⟨[other]⟩ :=
    .rel _ _ (@LayoutEdit.worksheet [] [] worksheet other h)
  have hedited : Relation.EqvGen LayoutEdit visitWorkbook ⟨[⟨"survey", [header, visitRow]⟩]⟩ :=
    hworksheet (@WorksheetEdit.row "survey" [] [visitRow] _ _ hcell)
  have htopped : Relation.EqvGen LayoutEdit ⟨[⟨"survey", [header, visitRow]⟩]⟩
      ⟨[⟨"survey", [blank, header, visitRow]⟩]⟩ :=
    hworksheet (@WorksheetEdit.rowInserted "survey" [] [header, visitRow] blank (by decide))
  have hmargin : Relation.EqvGen LayoutEdit ⟨[⟨"survey", [blank, header, visitRow]⟩]⟩
      ⟨[indented]⟩ :=
    hworksheet (.indented hindented)
  have hnotes : Relation.EqvGen LayoutEdit ⟨[indented]⟩ spacedVisitWorkbook :=
    .rel _ _ (@LayoutEdit.worksheetAdded [] [indented] ⟨"notes", [visitRow]⟩
      fun sheet => by cases sheet <;> decide)
  have hlayout : Relation.EqvGen LayoutEdit visitWorkbook spacedVisitWorkbook :=
    .trans _ _ _ hedited (.trans _ _ _ htopped (.trans _ _ _ hmargin hnotes))
  exact ⟨Survey.ofWorkbook_eqvGen_layoutEdit hlayout {}, by decide +kernel⟩

end Questionnaire
