import Questionnaire.Proofs.Form.Worksheets
import Questionnaire.Proofs.Language.FirstOccurrences
import Questionnaire.Proofs.Relevance.Sentence
import Questionnaire.Proofs.Relevance.WrittenComparisons
import Questionnaire.Proofs.Survey.Conditions

/-!
# Languages of a survey

Every text of a survey has an entry for each of its languages and for no other. The languages of the
questions are those of the label columns of the survey worksheet, the languages of the answers those
of the choices worksheet, and conditions are put into the languages that the options select, each of
them as a sentence that ends in a period.

Results:

* `Relevance.languages_phrase`, `Relevance.endsInPeriod_of_mem_phrase`: the sentences of a condition.
* `Form.rowsCovered_ofWorkbook`: the texts that are read from the rows of a form.
* `Survey.ofWorkbook_covered`: the texts of a survey.
-/

namespace Questionnaire

open LanguagesAvailable (firstOfLabel)
open Relevance (selectionText)

/-! ## Sentences -/

namespace Relevance

/-- An expression is put into exactly the languages that are asked for, in their order. -/
theorem languages_phrase (items : Forest) {languages : List Language} (h : languages.Nodup)
    (options : Options) (expression : String) :
    (phrase items languages options expression).text.languages = languages := by
  rw [text_phrase, Localized.languages_ofTexts h]

/-- Every entry of an expression in words is a sentence. -/
theorem endsInPeriod_of_mem_phrase {items : Forest} {languages : List Language} {options : Options}
    {expression : String} {entry : Language × Option String}
    (hm : entry ∈ (phrase items languages options expression).text.entries) :
    ∃ text, entry.2 = some text ∧ EndsInPeriod text := by
  rw [text_phrase] at hm
  obtain ⟨language, -, rfl⟩ := List.mem_map.1 hm
  exact ⟨_, rfl, endsInPeriod_finalText items options expression language⟩

end Relevance

/-! ## Rows -/

namespace Cluster

theorem areLabelled_languages (cluster : Cluster) : AreLabelled cluster.languages := by
  intro language hm
  obtain ⟨column, -, rfl⟩ := List.mem_map.1 hm
  rfl

theorem languages_localized (cluster : Cluster) (row : Row) :
    (cluster.localized row).languages = firstOfLabel cluster.languages := by
  have hkeys : (cluster.columns.map fun column =>
      (column.language, row.text column.column)).map Prod.fst = cluster.languages := by
    rw [List.map_map]
    rfl
  unfold localized
  rw [Localized.languages_ofList (by rw [hkeys]; exact cluster.areLabelled_languages), hkeys]

end Cluster

/-- The languages of a cluster that may be missing. -/
def languagesOf (cluster : Option Cluster) : List Language :=
  (cluster.map Cluster.languages).getD []

theorem areLabelled_languagesOf (cluster : Option Cluster) : AreLabelled (languagesOf cluster) := by
  cases cluster with
  | none => intro language hm; cases hm
  | some cluster => exact cluster.areLabelled_languages

theorem SurveyColumns.languages_localized (cluster : Option Cluster) (row : Row) :
    (localized cluster row).languages = firstOfLabel (languagesOf cluster) := by
  cases cluster with
  | none => rfl
  | some cluster => exact cluster.languages_localized row

/-- The texts of the rows of a form are in its languages. -/
structure Form.RowsCovered (form : Form) : Prop where
  label : ∀ row ∈ form.survey.rows, row.label.languages = form.languages.inGroupsAndQuestions
  hint : ∀ row ∈ form.survey.rows, row.hint.languages ⊆ form.languages.all
  choice : ∀ choices, form.choices = some choices → ∀ row ∈ choices.rows,
    row.label.languages.Perm form.languages.inSelectionAnswers

theorem areLabelled_append {languages others : List Language} (h : AreLabelled languages)
    (hothers : AreLabelled others) : AreLabelled (languages ++ others) := by
  intro language hm
  obtain hm | hm := List.mem_append.1 hm
  · exact h language hm
  · exact hothers language hm

/-- The languages of all clusters of a form are made from their labels. -/
theorem Form.areLabelled_clusters (form : Form) :
    AreLabelled (languagesOf form.survey.label ++ languagesOf form.survey.hint
      ++ (form.choices.map fun choices => choices.label.languages).getD []) := by
  refine areLabelled_append (areLabelled_append (areLabelled_languagesOf _)
    (areLabelled_languagesOf _)) ?_
  cases form.choices with
  | none => exact fun language hm => nomatch hm
  | some choices => exact choices.label.areLabelled_languages

theorem Form.rowsCovered_ofWorkbook {workbook : Workbook} {form : Form}
    (h : ofWorkbook workbook = .ok form) : form.RowsCovered := by
  obtain ⟨⟨worksheet, -, hsurvey⟩, hchoices⟩ := worksheets_of_ofWorkbook h
  obtain ⟨table, columns, -, -, hsheet⟩ := SurveySheet.ofWorksheet_eq_ok_iff.1 hsurvey
  have hlabels : form.survey.label = columns.label := by rw [hsheet]
  have hhints : form.survey.hint = columns.hint := by rw [hsheet]
  have hrow : ∀ row ∈ form.survey.rows, ∃ source, row = columns.read source := by
    intro row hm
    rw [hsheet] at hm
    obtain ⟨source, -, rfl⟩ := List.mem_map.1 hm
    exact ⟨source, rfl⟩
  let choiceLanguages := (form.choices.map fun choices => choices.label.languages).getD []
  have hlabelled : AreLabelled (languagesOf form.survey.label ++ languagesOf form.survey.hint
      ++ choiceLanguages) := form.areLabelled_clusters
  refine ⟨fun row hm => ?_, fun row hm language hlanguage => ?_, fun choices hsome row hm => ?_⟩
  · obtain ⟨source, rfl⟩ := hrow row hm
    show (SurveyColumns.localized columns.label source).languages = _
    rw [SurveyColumns.languages_localized, ← hlabels]
    exact (LanguagesAvailable.inGroupsAndQuestions_compute _ _ _).symm
  · obtain ⟨source, rfl⟩ := hrow row hm
    have hlanguage : language ∈ (SurveyColumns.localized columns.hint source).languages := hlanguage
    rw [SurveyColumns.languages_localized, ← hhints] at hlanguage
    refine (LanguagesAvailable.mem_firstOfLabel_iff hlabelled).2 ?_
    refine List.mem_append_left _ (List.mem_append_right _ ?_)
    exact LanguagesAvailable.mem_firstOfLabel hlanguage
  · obtain ⟨other, -, hread⟩ := hchoices choices hsome
    obtain ⟨table, columns, -, -, rfl⟩ := ChoicesSheet.ofWorksheet_eq_ok_iff.1 hread
    obtain ⟨source, -, rfl⟩ := List.mem_map.1 hm
    have hchoice : choiceLanguages = columns.label.languages := by
      show (form.choices.map _).getD [] = _
      rw [hsome]
      rfl
    have hselection : form.languages.inSelectionAnswers.Perm (firstOfLabel choiceLanguages) :=
      LanguagesAvailable.inSelectionAnswers_compute hlabelled
    show (columns.label.localized source).languages.Perm _
    rw [Cluster.languages_localized, ← hchoice]
    exact hselection.symm

/-! ## Items -/

/-- The group or question that is met. -/
def Event.item? : Event → Option Event
  | .opening g => some (.opening g)
  | .question q => some (.question q)
  | .closing => none

/-- Every group or question that is met in a form is made by a row. -/
theorem exists_row_of_mem_events {choices : Option ChoicesSheet} {options : Options}
    {rows : List SurveyRow} {event : Event}
    (h : event ∈ (assembleRows choices options rows).items.events)
    (hitem : event.item? = some event) : ∃ row ∈ rows, event = row.event choices options := by
  have hm : event ∈ (assembleRows choices options rows).items.events.filterMap Event.item? :=
    List.mem_filterMap.2 ⟨event, h, hitem⟩
  rw [filterMap_assembleRows rfl] at hm
  obtain ⟨row, hrow, hevent⟩ := List.mem_filterMap.1 hm
  refine ⟨row, (List.mem_filter.1 hrow).1, ?_⟩
  cases hrowEvent : row.event choices options with
  | closing => rw [hrowEvent] at hevent; cases hevent
  | opening g => rw [hrowEvent] at hevent; exact (Option.some.inj hevent).symm
  | question q => rw [hrowEvent] at hevent; exact (Option.some.inj hevent).symm

namespace SurveyRow

theorem openedGroup_of_event {choices : Option ChoicesSheet} {options : Options} {row : SurveyRow}
    {g : Group} (h : .opening g = row.event choices options) : g = row.openedGroup := by
  unfold event at h
  split at h
  · exact Event.opening.inj h
  · split at h <;> cases h

theorem askedQuestion_of_event {choices : Option ChoicesSheet} {options : Options} {row : SurveyRow}
    {q : Question} (h : .question q = row.event choices options) :
    q = row.askedQuestion choices options := by
  unfold event at h
  split at h
  · cases h
  · split at h
    · cases h
    · exact Event.question.inj h

theorem languages_shownLabel (row : SurveyRow) (options : Options) :
    (row.shownLabel options).languages = row.label.languages := by
  unfold shownLabel
  split
  · exact Localized.languages_mapTexts _ _
  · rfl

/-- An answer has the name and the label of a choice. -/
theorem exists_choice_of_mem_answers {choices : Option ChoicesSheet} {options : Options}
    {row : SurveyRow} {answer : Answer}
    (h : answer ∈ (row.askedQuestion choices options).answers) :
    ∃ sheet choice, choices = some sheet ∧ choice ∈ sheet.rows ∧
      choice.name = some answer.id ∧ answer.label = choice.label := by
  have h : answer ∈ (row.readAnswers choices row.spec
      (shownType row.spec (row.typeText.getD ""))).1 := h
  unfold readAnswers at h
  split at h
  · cases choices with
    | none => cases h
    | some sheet =>
      dsimp only at h
      cases hlist : sheet.list (row.spec.list?.getD "") with
      | nil => rw [hlist] at h; cases h
      | cons first others =>
        rw [hlist] at h
        obtain ⟨choice, hm, hanswer⟩ := List.mem_filterMap.1 h
        rw [← hlist] at hm
        obtain ⟨id, hname, rfl⟩ := Option.map_eq_some_iff.1 hanswer
        exact ⟨sheet, choice, rfl, (List.mem_filter.1 hm).1, hname, rfl⟩
  · cases h

end SurveyRow

/-! ## Surveys -/

/-- The texts of a survey are in its languages, and its conditions in the given ones. -/
structure Survey.Covered (survey : Survey) (conditions : List Language) : Prop where
  group : ∀ g, .opening g ∈ survey.items.events →
    g.label.languages = survey.languages.inGroupsAndQuestions
  question : ∀ q, .question q ∈ survey.items.events →
    q.label.languages = survey.languages.inGroupsAndQuestions ∧
      q.labelFull.languages = survey.languages.inGroupsAndQuestions
  answer : ∀ q, .question q ∈ survey.items.events → ∀ answer ∈ q.answers,
    answer.label.languages.Perm survey.languages.inSelectionAnswers
  hint : ∀ q, .question q ∈ survey.items.events → q.hint.languages ⊆ survey.languages.all
  condition : ∀ condition ∈ survey.items.conditions, ∀ text, condition.text = some text →
    text.languages = conditions ∧
      ∀ entry ∈ text.entries, ∃ sentence, entry.2 = some sentence ∧ EndsInPeriod sentence
  nodup : survey.languages.inGroupsAndQuestions.Nodup ∧
    survey.languages.inSelectionAnswers.Nodup ∧ conditions.Nodup
  inCommon : survey.languages.inCommon ⊆ survey.languages.inGroupsAndQuestions ∧
    survey.languages.inCommon ⊆ survey.languages.inSelectionAnswers
  defaultLanguage : ∀ language, survey.defaultLanguage = some language →
    language ∈ survey.languages.all

theorem LanguagesAvailable.nodup_compute (labels hints choices : Option (List Language)) :
    (compute labels hints choices).all.Nodup ∧ (compute labels hints choices).inCommon.Nodup ∧
      (compute labels hints choices).inGroupsAndQuestions.Nodup ∧
      (compute labels hints choices).inSelectionAnswers.Nodup := by
  have hall := nodup_firstOfLabel (labels.getD [] ++ hints.getD [] ++ choices.getD [])
  exact ⟨hall, hall.filter _, hall.filter _, hall.filter _⟩

theorem LanguagesAvailable.inCommon_subset_compute (labels hints choices : Option (List Language)) :
    (compute labels hints choices).inCommon ⊆
        (compute labels hints choices).inGroupsAndQuestions ∧
      (compute labels hints choices).inCommon ⊆
        (compute labels hints choices).inSelectionAnswers := by
  constructor
  · intro language hm
    obtain ⟨hm, hboth⟩ := List.mem_filter.1 hm
    exact List.mem_filter.2 ⟨hm, (Bool.and_eq_true_iff.1 hboth).1⟩
  · intro language hm
    obtain ⟨hm, hboth⟩ := List.mem_filter.1 hm
    exact List.mem_filter.2 ⟨hm, (Bool.and_eq_true_iff.1 hboth).2⟩

theorem LanguageSelection.nodup_select (selection : LanguageSelection) (form : Form) :
    (selection.select form.languages).Nodup := by
  obtain ⟨hall, hcommon, hquestions, -⟩ := LanguagesAvailable.nodup_compute
    (form.survey.label.map Cluster.languages) (form.survey.hint.map Cluster.languages)
    (form.choices.map fun choices => choices.label.languages)
  cases selection with
  | inCommon => exact hcommon
  | groupsAndQuestions => exact hquestions
  | all => exact hall

theorem Condition.isSome_text_phrase (condition : Condition) (lookup : Forest)
    (languages : List Language) (options : Options) :
    (condition.phrase lookup languages options).text.isSome = condition.source.isSome := by
  obtain ⟨source, text, steps⟩ := condition
  cases source <;> rfl

/-- The words of a condition are in exactly the languages that are asked for, in sentences. -/
theorem Condition.covered_phrase {condition : Condition} {lookup : Forest}
    {languages : List Language} (h : languages.Nodup) {options : Options} {text : Localized}
    (htext : (condition.phrase lookup languages options).text = some text) :
    text.languages = languages ∧
      ∀ entry ∈ text.entries, ∃ sentence, entry.2 = some sentence ∧ EndsInPeriod sentence := by
  cases hsource : condition.source with
  | none =>
    have hnone := condition.isSome_text_phrase lookup languages options
    rw [htext, hsource] at hnone
    cases hnone
  | some source =>
    rw [text_phrase hsource] at htext
    obtain rfl := Option.some.inj htext
    exact ⟨Relevance.languages_phrase lookup h options source,
      fun entry hentry => Relevance.endsInPeriod_of_mem_phrase hentry⟩

namespace Survey

variable {form : Form} {options : Options}

theorem exists_row_of_group {g : Group} (h : .opening g ∈ (ofForm form options).items.events) :
    ∃ row ∈ form.survey.rows, g.label = row.label := by
  rw [events_ofForm] at h
  obtain ⟨event, hm, hphrase⟩ := List.mem_map.1 h
  cases event with
  | opening original =>
    obtain ⟨row, hrow, hevent⟩ := exists_row_of_mem_events hm rfl
    obtain rfl := SurveyRow.openedGroup_of_event hevent
    refine ⟨row, hrow, ?_⟩
    rw [← Event.opening.inj hphrase]
    rfl
  | question q => cases hphrase
  | closing => cases hphrase

/-- A question of a survey is that of its row, but for the condition. -/
theorem exists_row_of_question {q : Question}
    (h : .question q ∈ (ofForm form options).items.events) :
    ∃ row ∈ form.survey.rows, ∃ condition,
      q = { row.askedQuestion form.choices options with condition := condition } := by
  rw [events_ofForm] at h
  obtain ⟨event, hm, hphrase⟩ := List.mem_map.1 h
  cases event with
  | question original =>
    obtain ⟨row, hrow, hevent⟩ := exists_row_of_mem_events hm rfl
    obtain rfl := SurveyRow.askedQuestion_of_event hevent
    exact ⟨row, hrow, Condition.phrase _ _ options _, (Event.question.inj hphrase).symm⟩
  | opening g => cases hphrase
  | closing => cases hphrase

theorem covered_ofForm (h : form.RowsCovered) (options : Options) :
    (ofForm form options).Covered (options.languages.select form.languages) := by
  have hselected := options.languages.nodup_select form
  obtain ⟨-, -, hquestions, hanswers⟩ := LanguagesAvailable.nodup_compute
    (form.survey.label.map Cluster.languages) (form.survey.hint.map Cluster.languages)
    (form.choices.map fun choices => choices.label.languages)
  refine ⟨fun g hm => ?_, fun q hm => ?_, fun q hm answer hanswer => ?_, fun q hm => ?_,
    fun condition hm text htext => ?_, ⟨hquestions, hanswers, hselected⟩,
    LanguagesAvailable.inCommon_subset_compute _ _ _, fun language hlanguage => ?_⟩
  · obtain ⟨row, hrow, hlabel⟩ := exists_row_of_group hm
    rw [hlabel]
    exact h.label row hrow
  · obtain ⟨row, hrow, condition, rfl⟩ := exists_row_of_question hm
    exact ⟨(row.languages_shownLabel options).trans (h.label row hrow), h.label row hrow⟩
  · obtain ⟨row, hrow, condition, rfl⟩ := exists_row_of_question hm
    have hanswer : answer ∈ (row.askedQuestion form.choices options).answers := hanswer
    obtain ⟨sheet, choice, hsheet, hchoice, -, hlabel⟩ :=
      SurveyRow.exists_choice_of_mem_answers hanswer
    rw [hlabel]
    exact h.choice sheet hsheet choice hchoice
  · obtain ⟨row, hrow, condition, rfl⟩ := exists_row_of_question hm
    exact h.hint row hrow
  · rw [conditions_ofForm] at hm
    obtain ⟨original, -, rfl⟩ := List.mem_map.1 hm
    exact Condition.covered_phrase hselected htext
  · obtain ⟨label, -, hfound⟩ := Option.bind_eq_some_iff.1 hlanguage
    exact List.mem_of_find?_eq_some hfound

end Survey

/-- The conditions of the items are read from the `relevant` cells of the rows that make them. -/
theorem Survey.relevantCells_ofForm {workbook : Workbook} {form : Form}
    (h : Form.ofWorkbook workbook = .ok form) (options : Options) :
    ∃ worksheet table columns, workbook.worksheet? SheetKind.survey.title = some worksheet ∧
      worksheet.table .survey = .ok table ∧ SurveyColumns.find table.header = .ok columns ∧
      (ofForm form options).items.conditions.map
          (fun condition => (condition.source, condition.text.isSome)) =
        (table.content.filter fun row => (columns.read row).makesItem).map
          fun row => (row.text columns.relevant, (row.text columns.relevant).isSome) := by
  obtain ⟨⟨worksheet, hworksheet, hsurvey⟩, -⟩ := Form.worksheets_of_ofWorkbook h
  obtain ⟨table, columns, htable, hcolumns, hsheet⟩ :=
    SurveySheet.ofWorksheet_eq_ok_iff.1 hsurvey
  have hrows : form.survey.rows = table.content.map columns.read := by rw [hsheet]
  refine ⟨worksheet, table, columns, hworksheet, htable, hcolumns, ?_⟩
  rw [conditions_ofForm, Form.assemble, conditions_assembleRows, hrows, List.filter_map, List.map_map,
    List.map_map, List.map_map]
  refine List.map_congr_left fun row _ => ?_
  simp only [Function.comp_apply, source_phrase, Condition.isSome_text_phrase, Condition.ofSource]
  rfl

/-- The texts of a survey have exactly one entry for each of their languages: labels for the
languages of the label columns, conditions for the selected languages. An item has a condition in
words exactly when the `relevant` cell of its row is filled. -/
theorem Survey.ofWorkbook_covered {workbook : Workbook} {options : Options} {survey : Survey}
    (h : Survey.ofWorkbook workbook options = .ok survey) :
    survey.Covered (options.languages.select survey.languages) ∧
      ∃ worksheet table columns, workbook.worksheet? SheetKind.survey.title = some worksheet ∧
        worksheet.table .survey = .ok table ∧ SurveyColumns.find table.header = .ok columns ∧
        survey.items.conditions.map (fun condition => (condition.source, condition.text.isSome)) =
          (table.content.filter fun row => (columns.read row).makesItem).map
            fun row => (row.text columns.relevant, (row.text columns.relevant).isSome) := by
  unfold ofWorkbook at h
  cases hform : Form.ofWorkbook workbook with
  | error fault => rw [hform] at h; cases h
  | ok form =>
    rw [hform] at h
    obtain rfl : ofForm form options = survey := Except.ok.inj h
    exact ⟨covered_ofForm (Form.rowsCovered_ofWorkbook hform) options,
      relevantCells_ofForm hform options⟩

/-! ## A form in three languages -/

/-- The labels are in two languages and the hints in a third; the choices name the languages in
another order. One label is missing, and a group stands in another. -/
def travelWorkbook : Workbook :=
  ⟨[.ofTexts "survey"
      [["type", "name", "relevant", "label::English", "label::French", "hint::German"],
        ["begin_group", "trips", "true()", "Trips", "Voyages", ""],
        ["select_one vehicles", "vehicle", "", "Which vehicle?", "", "Das letzte"],
        ["begin_group", "cars", selectionText "vehicle" "car", "Cars", "Voitures", ""],
        ["integer", "wheels", "", "How many wheels?", "Combien de roues ?", ""],
        ["end_group"],
        ["end_group"]],
    .ofTexts "choices"
      [["list_name", "name", "label::French", "label::English"],
        ["vehicles", "car", "Voiture", "Car"],
        ["vehicles", "boat", "Bateau", "Boat"]],
    .ofTexts "settings" [["default_language"], ["French"]]]⟩

theorem ofWorkbook_travelWorkbook :
    ∃ survey, Survey.ofWorkbook travelWorkbook {} = .ok survey ∧
      LanguageSelection.inCommon.select survey.languages =
        [Language.ofLabel "English", Language.ofLabel "French"] ∧
      survey.defaultLanguage = some (Language.ofLabel "French") ∧
      survey.items.conditions.length = 4 := by
  refine exists_ok_of_any ?_
  decide +kernel

theorem covered_travelWorkbook :
    ∃ survey, Survey.ofWorkbook travelWorkbook {} = .ok survey ∧
      survey.Covered [Language.ofLabel "English", Language.ofLabel "French"] ∧
      survey.items.conditions.length = 4 := by
  obtain ⟨survey, hsurvey, hselected, -, hlength⟩ := ofWorkbook_travelWorkbook
  have hcovered := (Survey.ofWorkbook_covered hsurvey).1
  rw [hselected] at hcovered
  exact ⟨survey, hsurvey, hcovered, hlength⟩

end Questionnaire
