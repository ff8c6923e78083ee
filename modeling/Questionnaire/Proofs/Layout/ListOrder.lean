import Mathlib.Data.List.Forall2
import Questionnaire.Proofs.Form.Worksheets
import Questionnaire.Proofs.Layout.Content

/-!
# The order of choices

Choices are looked up list by list, so only the order within a list counts. The rows of different
lists may be put in any order among each other, and rows without a list may stand anywhere or be
left out. This is true of a worksheet that is read for its choices alone: one worksheet may have two
words in its name, and is then read for its items or its settings as well.

Main definitions:

* `SheetTable.listCells`: the rows of a list.
* `Worksheet.Relisted`, `Workbook.Relisted`: the choices have been put in another order.
* `Workbook.OwnChoices`: the choices have a worksheet of their own.

Results:

* `ChoicesSheet.content_relisted`: each list offers the same answers.
* `Survey.ofWorkbook_relisted`: the survey is the same, or the error.
-/

namespace Questionnaire

/-! ## Lists of a worksheet -/

namespace SheetTable

/-- The list that a row belongs to. -/
def listOf? (table : SheetTable) (row : Row) : Option String :=
  (table.header.anyColumn? ["list_name", "list name"]).bind row.text

/-- The cells of the rows of a list, in sheet order. -/
def listCells (table : SheetTable) (list : String) : List (List (Option String)) :=
  (table.content.filter fun row => table.listOf? row = some list).map Row.cells

/-- The header is the same, and each list has the same rows in the same order. -/
structure Relisted (table other : SheetTable) : Prop where
  header : other.header = table.header
  lists : ∀ list, other.listCells list = table.listCells list

/-- The lists that have rows. -/
def lists (table : SheetTable) : List String := table.content.filterMap table.listOf?

theorem listCells_eq_nil {table : SheetTable} {list : String} (h : list ∉ table.lists) :
    table.listCells list = [] := by
  rw [listCells, List.map_eq_nil_iff, List.filter_eq_nil_iff]
  intro row hrow hlist
  exact h (List.mem_filterMap.2 ⟨row, hrow, of_decide_eq_true hlist⟩)

/-- Only the lists that have rows need to be compared. -/
theorem relisted_iff {table other : SheetTable} :
    table.Relisted other ↔ other.header = table.header ∧
      ∀ list ∈ table.lists ++ other.lists, other.listCells list = table.listCells list := by
  constructor
  · rintro ⟨hheader, hlists⟩
    exact ⟨hheader, fun list _ => hlists list⟩
  · rintro ⟨hheader, hlists⟩
    refine ⟨hheader, fun list => ?_⟩
    by_cases hm : list ∈ table.lists ++ other.lists
    · exact hlists list hm
    · rw [List.mem_append, not_or] at hm
      rw [listCells_eq_nil hm.1, listCells_eq_nil hm.2]

instance (table other : SheetTable) : Decidable (table.Relisted other) :=
  decidable_of_iff' _ relisted_iff

end SheetTable

/-- The content rows have been put in another order that keeps the order within each list. Their
numbers may have changed, and rows without a list may be anywhere, or nowhere, as long as there is
some content. -/
def Worksheet.Relisted (worksheet other : Worksheet) : Prop :=
  ∃ table relisted, worksheet.table .choices = .ok table ∧
    other.table .choices = .ok relisted ∧ table.Relisted relisted

/-! ## What the lists offer -/

namespace ChoicesColumns

/-- What a list offers is read from the cells of its rows, whatever their numbers. -/
theorem answers_read (columns : ChoicesColumns) (rows : List Row) (name : String) :
    ((rows.map columns.read).filter fun choice => choice.list = some name).map
        SurveyRow.answerOf? =
      ((rows.filter fun row => row.text columns.list = some name).map Row.cells).map
        fun cells => SurveyRow.answerOf? (columns.read ⟨0, cells⟩) := by
  rw [List.filter_map, List.map_map, List.map_map]
  rfl

theorem answers_read_relisted {table relisted : SheetTable} {columns : ChoicesColumns}
    (h : table.Relisted relisted) (hfind : find table.header = .ok columns) (name : String) :
    ((relisted.content.map columns.read).filter fun choice => choice.list = some name).map
        SurveyRow.answerOf? =
      ((table.content.map columns.read).filter fun choice => choice.list = some name).map
        SurveyRow.answerOf? := by
  have hcolumn := (find_eq_ok_iff.1 hfind).1
  have hlists := h.lists name
  unfold SheetTable.listCells SheetTable.listOf? at hlists
  rw [h.header, hcolumn] at hlists
  simp only [Option.bind_some] at hlists
  rw [columns.answers_read, columns.answers_read, hlists]

end ChoicesColumns

/-- Choices that have been put in another order say the same. -/
theorem ChoicesSheet.content_relisted {worksheet other : Worksheet} (h : worksheet.Relisted other) :
    (ofWorksheet other).map content = (ofWorksheet worksheet).map content := by
  obtain ⟨table, relisted, htable, hother, h⟩ := h
  unfold ofWorksheet
  rw [htable, hother]
  dsimp only [bind, Except.bind]
  -- the columns, or the error, depend on the header alone
  rw [h.header]
  cases hfind : ChoicesColumns.find table.header with
  | error fault => rfl
  | ok columns =>
    exact congrArg (fun answers => Except.ok (ChoicesContent.mk columns.label.languages answers))
      (funext (ChoicesColumns.answers_read_relisted h hfind))

/-! ## Workbooks -/

/-- The worksheet of the choices is neither that of the items nor that of the settings. -/
def Workbook.OwnChoices (workbook : Workbook) : Prop :=
  ∀ worksheet ∈ workbook.worksheet? SheetKind.choices.title,
    ∀ sheet : SheetKind, workbook.worksheet? sheet.title = some worksheet → sheet = .choices

/-- The choices have been put in another order, and nothing else has changed. -/
def Workbook.Relisted (workbook other : Workbook) : Prop :=
  List.Forall₂ (fun worksheet relisted => relisted = worksheet ∨
    worksheet ∈ workbook.worksheet? SheetKind.choices.title ∧
      relisted.name = worksheet.name ∧ worksheet.Relisted relisted)
    workbook.worksheets other.worksheets

theorem Workbook.Relisted.saysSame {workbook other : Workbook} (h : workbook.Relisted other)
    (hown : workbook.OwnChoices) : workbook.SaysSame other := by
  refine rel_worksheet? (h.imp fun worksheet relisted hrel => ?_)
  obtain rfl | ⟨hchoices, hname, hrelisted⟩ := hrel
  · refine ⟨rfl, fun sheet _ => ?_⟩
    cases sheet <;> rfl
  · refine ⟨hname, fun sheet hfound => ?_⟩
    obtain rfl := hown worksheet hchoices sheet hfound
    exact ChoicesSheet.content_relisted hrelisted

/-- The order of choices does not count but within a list, as long as they have a worksheet of their
own. -/
theorem Survey.ofWorkbook_relisted {workbook other : Workbook} (hown : workbook.OwnChoices)
    (h : workbook.Relisted other) (options : Options) :
    Survey.ofWorkbook other options = Survey.ofWorkbook workbook options :=
  ofWorkbook_congr (h.saysSame hown) options

/-! ## A form with two lists -/

/-- The rows of two lists stand one behind the other, around a remark. -/
def outfitWorkbook : Workbook :=
  ⟨[.ofTexts "survey"
      [["type", "name", "relevant"],
        ["select_one shirts", "shirt", ""],
        ["rank shoes", "shoe", ""]],
    .ofTexts "choices"
      [["list_name", "name", "label"],
        ["shirts", "plain", "A plain one"],
        ["shirts", "striped", "A striped one"],
        ["", "", "from last year"],
        ["shoes", "low", "Low ones"],
        ["shoes", "high", "High ones"]]]⟩

/-- The lists take turns, and the remark is left out. -/
def mixedOutfitWorkbook : Workbook :=
  ⟨[.ofTexts "survey"
      [["type", "name", "relevant"],
        ["select_one shirts", "shirt", ""],
        ["rank shoes", "shoe", ""]],
    .ofTexts "choices"
      [["list_name", "name", "label"],
        ["shoes", "low", "Low ones"],
        ["shirts", "plain", "A plain one"],
        ["shoes", "high", "High ones"],
        ["shirts", "striped", "A striped one"]]]⟩

theorem ofWorkbook_mixedOutfitWorkbook :
    Survey.ofWorkbook mixedOutfitWorkbook {} = Survey.ofWorkbook outfitWorkbook {} ∧
      (Survey.ofWorkbook outfitWorkbook {}).toOption.isSome := by
  have hown : outfitWorkbook.OwnChoices := by
    intro worksheet hm sheet
    cases sheet <;> revert worksheet <;> decide +kernel
  have hrelisted : outfitWorkbook.Relisted mixedOutfitWorkbook := by
    refine .cons (.inl rfl) (.cons (.inr ⟨rfl, rfl, _, _, rfl, rfl, ?_⟩) .nil)
    decide +kernel
  exact ⟨Survey.ofWorkbook_relisted hown hrelisted {}, by decide +kernel⟩

/-! ## Worksheets with two words in their names -/

/-- One worksheet of the items and of the choices, with two questions. -/
def petsWorkbook (first second : String) : Workbook :=
  ⟨[.ofTexts "survey and choices"
      [["type", "name", "relevant", "list_name", "label"],
        ["text", first, "", "", ""],
        ["text", second, "", "", ""]]]⟩

/-- One worksheet of the choices and of the settings, with two titles. -/
def titledWorkbook (first second : String) : Workbook :=
  ⟨[.ofTexts "survey" [["type", "name", "relevant"], ["text", "pet", ""]],
    .ofTexts "choices and settings"
      [["list_name", "name", "label", "form_title"],
        ["", "", "", first],
        ["", "", "", second]]]⟩

/-- Rows without a list may not change places if they are questions, or if the first of them has the
title of the form. -/
theorem relisted_sharedWorksheets :
    ((petsWorkbook "cat" "dog").Relisted (petsWorkbook "dog" "cat") ∧
      (Survey.ofWorkbook (petsWorkbook "cat" "dog") {}).map
          (fun survey => survey.items.questions.map Question.name) = .ok ["cat", "dog"] ∧
      (Survey.ofWorkbook (petsWorkbook "dog" "cat") {}).map
          (fun survey => survey.items.questions.map Question.name) = .ok ["dog", "cat"]) ∧
    ((titledWorkbook "Pets" "Animals").Relisted (titledWorkbook "Animals" "Pets") ∧
      (Survey.ofWorkbook (titledWorkbook "Pets" "Animals") {}).map Survey.formTitle =
        .ok (some "Pets") ∧
      (Survey.ofWorkbook (titledWorkbook "Animals" "Pets") {}).map Survey.formTitle =
        .ok (some "Animals")) := by
  refine ⟨⟨.cons (.inr ⟨rfl, rfl, _, _, rfl, rfl, ?_⟩) .nil, ?_, ?_⟩,
    .cons (.inl rfl) (.cons (.inr ⟨rfl, rfl, _, _, rfl, rfl, ?_⟩) .nil), ?_, ?_⟩
  all_goals decide +kernel

end Questionnaire
