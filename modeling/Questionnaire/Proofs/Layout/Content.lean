import Questionnaire.Proofs.Language.FirstOccurrences
import Questionnaire.Survey

/-!
# What a form says

A form knows in which columns its texts stand, and in which rows its choices. Its survey depends
only on what the texts say: on the rows of the survey worksheet, on the answers that each list
offers, on the languages of the clusters and on the settings.

Main definitions:

* `Form.content`: what a form says.
* `Workbook.SaysSame`: two workbooks have worksheets that say the same.

Results:

* `Survey.ofForm_congr`: forms of the same content have the same survey.
* `Survey.ofWorkbook_congr`: so do workbooks, and those without a form the same error.
-/

namespace Questionnaire

/-! ## Content -/

/-- What the survey worksheet says: the languages of its clusters, and its rows. -/
structure SurveyContent where
  label : Option (List Language)
  hint : Option (List Language)
  rows : List SurveyRow

def SurveySheet.content (sheet : SurveySheet) : SurveyContent where
  label := sheet.label.map Cluster.languages
  hint := sheet.hint.map Cluster.languages
  rows := sheet.rows

/-- What the choices worksheet says: the languages of its labels, and what each list offers. A
choice without a name is no answer, but it makes up a list as well. -/
structure ChoicesContent where
  label : List Language
  answers : String → List (Option Answer)

def ChoicesSheet.content (sheet : ChoicesSheet) : ChoicesContent where
  label := sheet.label.languages
  answers := fun name => (sheet.list name).map SurveyRow.answerOf?

/-- What a form says, without the columns in which it stands. -/
structure FormContent where
  survey : SurveyContent
  choices : Option ChoicesContent
  settings : Option Settings

def Form.content (form : Form) : FormContent where
  survey := form.survey.content
  choices := form.choices.map ChoicesSheet.content
  settings := form.settings

/-! ## Reading the choices -/

section

variable {choices others : Option ChoicesSheet}
  (h : choices.map ChoicesSheet.content = others.map ChoicesSheet.content)

include h

/-- The answers of a question are taken from what its list offers. -/
theorem SurveyRow.readAnswers_congr (row : SurveyRow) (spec : TypeSpec) (shown : String) :
    row.readAnswers choices spec shown = row.readAnswers others spec shown := by
  unfold readAnswers
  split
  · cases choices with
    | none =>
      cases others with
      | none => rfl
      | some other => cases h
    | some sheet =>
      cases others with
      | none => cases h
      | some other =>
        have hanswers (name : String) :
            (sheet.list name).map answerOf? = (other.list name).map answerOf? :=
          congrFun (congrArg ChoicesContent.answers (Option.some.inj h)) name
        have hfiltered (rows : List ChoiceRow) :
            rows.filterMap answerOf? = (rows.map answerOf?).filterMap id := by
          rw [List.filterMap_map, Function.id_comp]
        dsimp only
        cases hlist : sheet.list (spec.list?.getD "") with
        | nil =>
          have hnil := hanswers (spec.list?.getD "")
          rw [hlist, List.map_nil, eq_comm, List.map_eq_nil_iff] at hnil
          rw [hnil]
        | cons first rest =>
          obtain ⟨first', rest', hother, -⟩ :=
            List.map_eq_cons_iff.1 ((hanswers _).symm.trans (congrArg _ hlist))
          rw [hother]
          dsimp only
          rw [hfiltered, hfiltered, ← hlist, ← hother, hanswers]
  · rfl

theorem SurveyRow.reading?_congr (options : Options) (row : SurveyRow) :
    row.reading? choices options = row.reading? others options := by
  unfold reading? readingOf
  simp only [row.readAnswers_congr h]

theorem assembleRows_congr (options : Options) (rows : List SurveyRow) :
    assembleRows choices options rows = assembleRows others options rows := by
  have hreadings : readings choices options rows = readings others options rows :=
    congrArg (List.filterMap · rows) (funext fun row => row.reading?_congr h options)
  unfold assembleRows
  rw [hreadings]

end

/-! ## Surveys of forms -/

theorem Form.languages_congr {form other : Form} (h : form.content = other.content) :
    form.languages = other.languages := by
  have hlabel : form.survey.label.map Cluster.languages =
      other.survey.label.map Cluster.languages :=
    congrArg (fun content => content.survey.label) h
  have hhint : form.survey.hint.map Cluster.languages = other.survey.hint.map Cluster.languages :=
    congrArg (fun content => content.survey.hint) h
  have hchoices : (form.choices.map ChoicesSheet.content).map ChoicesContent.label =
      (other.choices.map ChoicesSheet.content).map ChoicesContent.label :=
    congrArg (fun content => content.choices.map ChoicesContent.label) h
  rw [Option.map_map, Option.map_map] at hchoices
  unfold languages
  rw [hlabel, hhint]
  exact congrArg _ hchoices

theorem Form.assemble_congr {form other : Form} (h : form.content = other.content)
    (options : Options) : form.assemble options = other.assemble options := by
  have hrows : form.survey.rows = other.survey.rows :=
    congrArg (fun content => content.survey.rows) h
  unfold assemble
  rw [hrows]
  exact assembleRows_congr (congrArg FormContent.choices h) options _

/-- Forms that say the same have the same survey. -/
theorem Survey.ofForm_congr {form other : Form} (h : form.content = other.content)
    (options : Options) : ofForm form options = ofForm other options := by
  have hsettings : form.settings = other.settings := congrArg FormContent.settings h
  unfold ofForm
  rw [Form.languages_congr h, Form.assemble_congr h, hsettings]

/-! ## Worksheets that say the same -/

/-- Both worksheets can be read and say the same, or neither can for the same reason. -/
def Worksheet.SaysSame (sheet : SheetKind) (worksheet other : Worksheet) : Prop :=
  match sheet with
  | .survey => (SurveySheet.ofWorksheet other).map SurveySheet.content =
      (SurveySheet.ofWorksheet worksheet).map SurveySheet.content
  | .choices => (ChoicesSheet.ofWorksheet other).map ChoicesSheet.content =
      (ChoicesSheet.ofWorksheet worksheet).map ChoicesSheet.content
  | .settings => Settings.ofWorksheet other = Settings.ofWorksheet worksheet

/-- Each of the three worksheets is there in both workbooks or in neither, and says the same. -/
def Workbook.SaysSame (workbook other : Workbook) : Prop :=
  ∀ sheet : SheetKind, Option.Rel (Worksheet.SaysSame sheet)
    (workbook.worksheet? sheet.title) (other.worksheet? sheet.title)

/-- Worksheets are found by their names, so only those that are found need to be related. -/
theorem Workbook.rel_worksheet? {R : SheetKind → Worksheet → Worksheet → Prop}
    {workbook other : Workbook}
    (h : List.Forall₂ (fun worksheet changed => changed.name = worksheet.name ∧
      ∀ sheet : SheetKind, workbook.worksheet? sheet.title = some worksheet →
        R sheet worksheet changed) workbook.worksheets other.worksheets)
    (sheet : SheetKind) :
    Option.Rel (R sheet) (workbook.worksheet? sheet.title) (other.worksheet? sheet.title) := by
  have hfound := rel_find? (p := fun worksheet => Text.contains worksheet.name sheet.title)
    (fun worksheet changed hrel => by rw [hrel.1]) h
  unfold worksheet? at hfound ⊢
  generalize hsome : workbook.worksheets.find? (fun worksheet =>
    Text.contains worksheet.name sheet.title) = found at hfound ⊢
  generalize other.worksheets.find? (fun worksheet =>
    Text.contains worksheet.name sheet.title) = changed at hfound ⊢
  cases hfound with
  | none => exact .none
  | some hrel => exact .some (hrel.2 sheet hsome)

/-- Results that agree in content both fail for one reason, or both succeed. -/
theorem map_eq_map_cases {α β γ ε : Type} {f : α → γ} {g : β → γ} {result : Except ε α}
    {other : Except ε β} (h : result.map f = other.map g) :
    (∃ fault, result = .error fault ∧ other = .error fault) ∨
      ∃ a b, result = .ok a ∧ other = .ok b ∧ f a = g b := by
  cases result with
  | error fault =>
    cases other with
    | error fault' => exact .inl ⟨fault, rfl, congrArg Except.error (Except.error.inj h).symm⟩
    | ok b => cases h
  | ok a =>
    cases other with
    | error fault => cases h
    | ok b => exact .inr ⟨a, b, rfl, rfl, Except.ok.inj h⟩

namespace Form

variable {workbook other : Workbook} (h : workbook.SaysSame other)

include h

theorem surveyMissing_congr :
    surveyMissing (other.worksheet? SheetKind.choices.title)
        (other.worksheet? SheetKind.settings.title) =
      surveyMissing (workbook.worksheet? SheetKind.choices.title)
        (workbook.worksheet? SheetKind.settings.title) := by
  have hchoices := h .choices
  have hsettings := h .settings
  generalize workbook.worksheet? SheetKind.choices.title = choices at hchoices
  generalize other.worksheet? SheetKind.choices.title = choices' at hchoices
  generalize workbook.worksheet? SheetKind.settings.title = settings at hsettings
  generalize other.worksheet? SheetKind.settings.title = settings' at hsettings
  cases hchoices <;> cases hsettings <;> rfl

theorem readOptional_choices_congr :
    (readOptional ChoicesSheet.ofWorksheet (other.worksheet? SheetKind.choices.title)).map
        (Option.map ChoicesSheet.content) =
      (readOptional ChoicesSheet.ofWorksheet (workbook.worksheet? SheetKind.choices.title)).map
        (Option.map ChoicesSheet.content) := by
  have hchoices := h .choices
  generalize workbook.worksheet? SheetKind.choices.title = choices at hchoices ⊢
  generalize other.worksheet? SheetKind.choices.title = choices' at hchoices ⊢
  cases hchoices with
  | none => rfl
  | @some worksheet found hsame =>
    dsimp only [readOptional]
    obtain ⟨fault, h₁, h₂⟩ | ⟨sheet, sheet', h₁, h₂, heq⟩ := map_eq_map_cases hsame
    · rw [h₁, h₂]
    · rw [h₁, h₂]
      exact congrArg (fun content => Except.ok (some content)) heq

theorem readOptional_settings_congr :
    readOptional Settings.ofWorksheet (other.worksheet? SheetKind.settings.title) =
      readOptional Settings.ofWorksheet (workbook.worksheet? SheetKind.settings.title) := by
  have hsettings := h .settings
  generalize workbook.worksheet? SheetKind.settings.title = settings at hsettings ⊢
  generalize other.worksheet? SheetKind.settings.title = settings' at hsettings ⊢
  cases hsettings with
  | none => rfl
  | some hsame => exact congrArg (Except.map some) hsame

/-- Workbooks whose worksheets say the same have forms that do, or the same error. -/
theorem content_ofWorkbook_congr :
    (ofWorkbook other).map content = (ofWorkbook workbook).map content := by
  have hchoices := readOptional_choices_congr h
  have hsettings := readOptional_settings_congr h
  have hmissing := surveyMissing_congr h
  have hsurvey := h .survey
  unfold ofWorkbook
  generalize workbook.worksheet? SheetKind.survey.title = survey at hsurvey ⊢
  generalize other.worksheet? SheetKind.survey.title = survey' at hsurvey ⊢
  cases hsurvey with
  | none => exact congrArg Except.error hmissing
  | @some worksheet found hsame =>
    dsimp only
    obtain ⟨fault, h₁, h₂⟩ | ⟨survey, survey', h₁, h₂, heq⟩ := map_eq_map_cases hsame
    · rw [h₁, h₂]
      rfl
    rw [h₁, h₂]
    obtain ⟨fault, h₁, h₂⟩ | ⟨choices, choices', h₁, h₂, heq'⟩ := map_eq_map_cases hchoices
    · rw [h₁, h₂]
      rfl
    rw [h₁, h₂, hsettings]
    cases readOptional Settings.ofWorksheet (workbook.worksheet? SheetKind.settings.title) with
    | error fault => rfl
    | ok settings =>
      show Except.ok (FormContent.mk _ _ _) = Except.ok (FormContent.mk _ _ _)
      rw [heq, heq']

end Form

/-- Workbooks whose worksheets say the same have the same survey, or the same error. -/
theorem Survey.ofWorkbook_congr {workbook other : Workbook} (h : workbook.SaysSame other)
    (options : Options) : ofWorkbook other options = ofWorkbook workbook options := by
  unfold ofWorkbook
  obtain ⟨fault, hother, hform⟩ | ⟨form', form, hother, hform, hcontent⟩ :=
    map_eq_map_cases (Form.content_ofWorkbook_congr h)
  · rw [hform, hother]
  · rw [hform, hother]
    exact congrArg Except.ok (ofForm_congr hcontent options)

end Questionnaire
