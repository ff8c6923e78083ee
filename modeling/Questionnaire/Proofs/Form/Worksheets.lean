import Questionnaire.Form

/-!
# Worksheets that are read

A form that was read comes from worksheets that were read: each of them is a table, whose header has
the columns through which the content rows are read.

Results:

* `ChoicesColumns.find_eq_ok_iff`: the columns of the choices.
* `SurveySheet.ofWorksheet_eq_ok_iff`, `ChoicesSheet.ofWorksheet_eq_ok_iff`: a worksheet is read
  through the columns of its header.
* `Form.worksheets_of_ofWorkbook`: a form is made up of its worksheets.
-/

namespace Questionnaire

theorem bind_eq_ok_iff {α β : Type} {result : Except FormError α} {next : α → Except FormError β}
    {b : β} : result >>= next = .ok b ↔ ∃ a, result = .ok a ∧ next a = .ok b := by
  cases result with
  | error fault =>
    constructor
    · intro h
      cases h
    · rintro ⟨a, h, -⟩
      cases h
  | ok a =>
    constructor
    · exact fun h => ⟨a, rfl, h⟩
    · rintro ⟨other, h, hnext⟩
      obtain rfl := Except.ok.inj h
      exact hnext

/-- A result with a property that can be checked. -/
theorem exists_ok_of_any {α ε : Type} {result : Except ε α} {P : α → Prop} [DecidablePred P]
    (h : result.toOption.any (fun a => P a) = true) : ∃ a, result = .ok a ∧ P a := by
  cases result with
  | error fault => cases h
  | ok a => exact ⟨a, rfl, of_decide_eq_true h⟩

/-- The columns of the choices are found by their titles. -/
theorem ChoicesColumns.find_eq_ok_iff {header : Header} {columns : ChoicesColumns} :
    find header = .ok columns ↔
      header.anyColumn? ["list_name", "list name"] = some columns.list ∧
        header.position? "name" = some columns.name ∧
        header.cluster? "label" = some columns.label ∧
        columns.filters = filterColumns header columns.list columns.name columns.label := by
  simp only [find, bind_eq_ok_iff, Header.anyColumn_eq_ok_iff, Header.column_eq_ok_iff,
    Header.cluster_eq_ok_iff]
  constructor
  · rintro ⟨list, hlist, name, hname, label, hlabel, hcolumns⟩
    obtain rfl := Except.ok.inj hcolumns
    exact ⟨hlist, hname, hlabel, rfl⟩
  · rintro ⟨hlist, hname, hlabel, hfilters⟩
    refine ⟨_, hlist, _, hname, _, hlabel, congrArg Except.ok ?_⟩
    rw [← hfilters]

theorem SurveySheet.ofWorksheet_eq_ok_iff {worksheet : Worksheet} {sheet : SurveySheet} :
    SurveySheet.ofWorksheet worksheet = .ok sheet ↔
      ∃ table columns, worksheet.table .survey = .ok table ∧
        SurveyColumns.find table.header = .ok columns ∧
        sheet = ⟨table.header, columns.label, columns.hint, table.content.map columns.read⟩ := by
  unfold ofWorksheet
  simp only [bind_eq_ok_iff, exists_and_left]
  refine exists_congr fun table => and_congr_right fun _ => exists_congr fun columns =>
    and_congr_right fun _ => ?_
  exact ⟨fun h => (Except.ok.inj h).symm, fun h => congrArg Except.ok h.symm⟩

theorem ChoicesSheet.ofWorksheet_eq_ok_iff {worksheet : Worksheet} {sheet : ChoicesSheet} :
    ChoicesSheet.ofWorksheet worksheet = .ok sheet ↔
      ∃ table columns, worksheet.table .choices = .ok table ∧
        ChoicesColumns.find table.header = .ok columns ∧
        sheet = ⟨table.header, columns.label, table.content.map columns.read⟩ := by
  unfold ofWorksheet
  simp only [bind_eq_ok_iff, exists_and_left]
  refine exists_congr fun table => and_congr_right fun _ => exists_congr fun columns =>
    and_congr_right fun _ => ?_
  exact ⟨fun h => (Except.ok.inj h).symm, fun h => congrArg Except.ok h.symm⟩

namespace Form

theorem readOptional_eq_ok_some {α : Type} {read : Worksheet → Except FormError α}
    {worksheet : Option Worksheet} {a : α} (h : readOptional read worksheet = .ok (some a)) :
    ∃ present, worksheet = some present ∧ read present = .ok a := by
  cases worksheet with
  | none => cases h
  | some present =>
    refine ⟨present, rfl, ?_⟩
    have h : (read present).map some = .ok (some a) := h
    cases hread : read present with
    | error fault => rw [hread] at h; cases h
    | ok other =>
      rw [hread] at h
      obtain rfl := Option.some.inj (Except.ok.inj h)
      rfl

/-- A form is made up of the worksheets that were read. -/
theorem worksheets_of_ofWorkbook {workbook : Workbook} {form : Form}
    (h : ofWorkbook workbook = .ok form) :
    (∃ worksheet, workbook.worksheet? SheetKind.survey.title = some worksheet ∧
      SurveySheet.ofWorksheet worksheet = .ok form.survey) ∧
    (∀ choices, form.choices = some choices →
      ∃ worksheet, workbook.worksheet? SheetKind.choices.title = some worksheet ∧
        ChoicesSheet.ofWorksheet worksheet = .ok choices) := by
  unfold ofWorkbook at h
  cases hsurvey : workbook.worksheet? SheetKind.survey.title with
  | none => rw [hsurvey] at h; cases h
  | some worksheet =>
    rw [hsurvey] at h
    simp only [bind_eq_ok_iff] at h
    obtain ⟨survey, hread, choices, hchoices, settings, -, hform⟩ := h
    obtain rfl := Except.ok.inj hform
    refine ⟨⟨worksheet, rfl, hread⟩, fun sheet hsheet => ?_⟩
    have hsheet : choices = some sheet := hsheet
    rw [hsheet] at hchoices
    exact readOptional_eq_ok_some hchoices

end Form

end Questionnaire
