import Mathlib.Logic.Equiv.Basic
import Questionnaire.Proofs.Layout.MovedWorksheets

/-!
# The order of columns

Columns are found by their titles, so the order in which they stand does not count. Only the columns
of a cluster keep the order of the languages, and the choice filters that of the filters.

Main definitions:

* `Row.Permuted`: the columns of a row stand in another order.
* `Workbook.Permuted`: so do those of the worksheets, the order being kept where it counts.
* `Workbook.DistinctTitles`: no two columns of a worksheet that is read have one title.

Results:

* `Survey.ofWorkbook_permuted`: the survey is the same, or the error.
-/

namespace Questionnaire

variable {order : Equiv.Perm ℕ}

/-! ## Columns in another order -/

/-- The cells of the row stand in the given order of columns. -/
structure Row.Permuted (order : Equiv.Perm ℕ) (row other : Row) : Prop where
  number : other.number = row.number
  cell : ∀ column, other.cells[order column]?.join = row.cells[column]?.join

/-- No two columns have one title. -/
def Header.DistinctTitles (header : Header) : Prop := (header.titled.map Prod.snd).Nodup

instance (header : Header) : Decidable header.DistinctTitles :=
  inferInstanceAs (Decidable (List.Nodup _))

/-- The columns of each cluster stand in the same order as before, and the choice filters do. -/
def Header.KeepsOrder (order : Equiv.Perm ℕ) (header : Header) : Prop :=
  ∀ columns ∈ header.orderedColumns, ∀ column ∈ columns, ∀ later ∈ columns,
    column < later → order column < order later

instance (header : Header) : Decidable (header.KeepsOrder order) :=
  inferInstanceAs (Decidable (∀ columns ∈ header.orderedColumns, ∀ column ∈ columns, _))

/-- The columns of each worksheet may stand in another order, for all of its rows alike. A worksheet
that is read keeps the order of each cluster and of the choice filters. -/
def Workbook.Permuted (workbook other : Workbook) : Prop :=
  List.Forall₂ (fun worksheet moved => moved.name = worksheet.name ∧
    ∃ order : Equiv.Perm ℕ, List.Forall₂ (Row.Permuted order) worksheet.rows moved.rows ∧
      ∀ sheet : SheetKind, worksheet ∈ workbook.worksheet? sheet.title →
        ∀ header ∈ worksheet.filledRows.head?, (Header.ofRow sheet header).KeepsOrder order)
    workbook.worksheets other.worksheets

/-- The header of each worksheet that is read has distinct titles. -/
def Workbook.DistinctTitles (workbook : Workbook) : Prop :=
  ∀ sheet : SheetKind, ∀ worksheet ∈ workbook.worksheet? sheet.title,
    ∀ header ∈ worksheet.filledRows.head?, (Header.ofRow sheet header).DistinctTitles

/-! ## Nothing is lost -/

theorem Row.text_eq_bind_join (row : Row) (column : ℕ) :
    row.text column = row.cells[column]?.join.bind Text.trimmed? := by
  rw [text]
  cases row.cells[column]? <;> rfl

theorem Row.Permuted.moved {row other : Row} (h : row.Permuted order other) :
    row.Moved order other := by
  refine ⟨h.number, fun column => ?_, fun column _ _ => ⟨order.symm column, ?_⟩⟩
  · rw [text_eq_bind_join, text_eq_bind_join, h.cell]
  · exact order.apply_symm_apply column

/-- Only the columns up to a width need to be compared when the others stay where they are. -/
theorem Row.Permuted.of_lt {width : ℕ} (hfixed : ∀ column, width ≤ column → order column = column)
    {row other : Row} (h : other.number = row.number ∧ row.cells.length ≤ width ∧
      other.cells.length ≤ width ∧
      ∀ column < width, other.cells[order column]?.join = row.cells[column]?.join) :
    row.Permuted order other := by
  obtain ⟨hnumber, hrow, hother, hcell⟩ := h
  refine ⟨hnumber, fun column => ?_⟩
  by_cases hlt : column < width
  · exact hcell column hlt
  · have hle : width ≤ column := Nat.le_of_not_lt hlt
    rw [hfixed column hle, List.getElem?_eq_none (hrow.trans hle),
      List.getElem?_eq_none (hother.trans hle)]

/-- A title that only one column has cannot change its order. -/
theorem Header.DistinctTitles.eq_of_mem {header : Header} (h : header.DistinctTitles)
    {title : String} {column other : ℕ} (hm : (column, title) ∈ header.titled)
    (hother : (other, title) ∈ header.titled) : column = other :=
  congrArg Prod.fst (List.inj_on_of_nodup_map h hm hother rfl)

theorem Header.DistinctTitles.orderKept {header : Header} (h : header.DistinctTitles)
    (hkeeps : header.KeepsOrder order) : header.OrderKept order where
  injective := order.injective
  titles := by
    intro title column hm other hother hlt
    obtain rfl := h.eq_of_mem hm hother
    exact absurd hlt (Nat.lt_irrefl column)
  columns := by
    intro columns hm column hcolumn later hlater
    exact hkeeps columns hm column hcolumn later hlater

theorem Workbook.Permuted.moved {workbook other : Workbook} (h : workbook.Permuted other)
    (hdistinct : workbook.DistinctTitles) : workbook.Moved other := by
  refine .of_forall₂ (h.imp fun worksheet moved hrel => ?_)
  obtain ⟨hname, order, hrows, hkeeps⟩ := hrel
  refine ⟨hname, fun sheet hfound => ⟨order, ?_, fun header hheader => ?_⟩⟩
  · exact Worksheet.filledRows_moved (hrows.imp fun _ _ hrow => hrow.moved)
  · exact (hdistinct sheet worksheet hfound header hheader).orderKept
      (hkeeps sheet hfound header hheader)

/-- The order of columns does not count as long as titles are distinct and the clusters and the
choice filters keep theirs. -/
theorem Survey.ofWorkbook_permuted {workbook other : Workbook} (hdistinct : workbook.DistinctTitles)
    (h : workbook.Permuted other) (options : Options) :
    Survey.ofWorkbook other options = Survey.ofWorkbook workbook options :=
  Survey.ofWorkbook_moved (h.moved hdistinct) options

/-! ## A form with its columns in another order -/

def shirtWorkbook : Workbook :=
  ⟨[.ofTexts "survey"
      [["type", "name", "label::English", "label::French", "relevant", "choice_filter"],
        ["select_one shirts", "shirt", "Which shirt?", "Quelle chemise ?", "", "size = 4"]],
    .ofTexts "choices"
      [["list_name", "name", "label::English", "colour", "size"],
        ["shirts", "plain", "A plain one", "red", "4"]],
    .ofTexts "settings" [["form_title", "version"], ["Shirts", "2"]]]⟩

/-- The type and the condition have changed places, as have the list and the colour. -/
def reorderedShirtWorkbook : Workbook :=
  ⟨[.ofTexts "survey"
      [["relevant", "name", "label::English", "label::French", "type", "choice_filter"],
        ["", "shirt", "Which shirt?", "Quelle chemise ?", "select_one shirts", "size = 4"]],
    .ofTexts "choices"
      [["colour", "name", "label::English", "list_name", "size"],
        ["red", "plain", "A plain one", "shirts", "4"]],
    .ofTexts "settings" [["version", "form_title"], ["2", "Shirts"]]]⟩

theorem ofWorkbook_reorderedShirtWorkbook :
    Survey.ofWorkbook reorderedShirtWorkbook {} = Survey.ofWorkbook shirtWorkbook {} ∧
      (Survey.ofWorkbook shirtWorkbook {}).toOption.isSome := by
  have hdistinct : shirtWorkbook.DistinctTitles := by
    intro sheet
    cases sheet <;> decide +kernel
  have hfixed (first second : ℕ) (hfirst : first < 6) (hsecond : second < 6) (column : ℕ)
      (hle : 6 ≤ column) : Equiv.swap first second column = column :=
    Equiv.swap_apply_of_ne_of_ne (by omega) (by omega)
  have hsurvey := hfixed 0 4 (by decide) (by decide)
  have hchoices := hfixed 0 3 (by decide) (by decide)
  have hsettings := hfixed 0 1 (by decide) (by decide)
  have hpermuted : shirtWorkbook.Permuted reorderedShirtWorkbook := by
    refine .cons ⟨rfl, Equiv.swap 0 4, ?_, ?_⟩ (.cons ⟨rfl, Equiv.swap 0 3, ?_, ?_⟩
      (.cons ⟨rfl, Equiv.swap 0 1, ?_, ?_⟩ .nil))
    · exact .cons (.of_lt hsurvey (by decide)) (.cons (.of_lt hsurvey (by decide)) .nil)
    · intro sheet
      cases sheet <;> decide +kernel
    · exact .cons (.of_lt hchoices (by decide)) (.cons (.of_lt hchoices (by decide)) .nil)
    · intro sheet
      cases sheet <;> decide +kernel
    · exact .cons (.of_lt hsettings (by decide)) (.cons (.of_lt hsettings (by decide)) .nil)
    · intro sheet
      cases sheet <;> decide +kernel
  exact ⟨Survey.ofWorkbook_permuted hdistinct hpermuted {}, by decide +kernel⟩

end Questionnaire
