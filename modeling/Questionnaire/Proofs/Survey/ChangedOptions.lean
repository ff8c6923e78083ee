import Mathlib.Data.List.Forall2
import Questionnaire.Proofs.Assembly.ChangedQuestions
import Questionnaire.Proofs.Relevance.Sentence
import Questionnaire.Proofs.Survey.Conditions

/-!
# Changed options

A form is converted under options. They do not decide whether it can be converted, and they reach
two places of its survey only: the labels of questions as they are shown, and the words of the
conditions. Into which languages conditions are put does not change their words in any of these.

Main definitions:

* `Survey.withoutWords`, `Survey.withoutLabels`: the survey without the words of its conditions,
  and without the labels that its questions show.
* `Survey.AgreesUnder`: what two surveys have in common under two options.

Results:

* `assembleRows_withoutLabels`: the options change no more of the items than these labels.
* `Relevance.phrase_congr`: one option counts for the words of an expression.
* `Survey.ofWorkbook_changedOptions`: two conversions of a workbook compared.
-/

namespace Questionnaire

open Relevance

/-! ## Words and labels left out -/

/-- The condition with only its expression. -/
def Condition.bare (condition : Condition) : Condition := .ofSource condition.source

def Group.mapCondition (f : Condition → Condition) (group : Group) : Group :=
  { group with condition := f group.condition }

def Question.mapCondition (f : Condition → Condition) (question : Question) : Question :=
  { question with condition := f question.condition }

/-- The question without the label that is shown. -/
def Question.withoutLabel (question : Question) : Question := { question with label := .empty }

namespace Forest

def mapConditions (f : Condition → Condition) (items : Forest) : Forest :=
  items.mapItems (Group.mapCondition f) (Question.mapCondition f)

def withoutLabels (items : Forest) : Forest := items.mapItems id Question.withoutLabel

theorem mapConditions_mapConditions (f f' : Condition → Condition) (items : Forest) :
    (items.mapConditions f).mapConditions f' = items.mapConditions (f' ∘ f) :=
  mapItems_mapItems _ _ _ _ items

theorem withoutLabels_mapConditions (f : Condition → Condition) (items : Forest) :
    (items.mapConditions f).withoutLabels = items.withoutLabels.mapConditions f := by
  unfold withoutLabels mapConditions
  rw [mapItems_mapItems, mapItems_mapItems]
  rfl

theorem withConditions_eq (languages : List Language) (options : Options) (items lookup : Forest) :
    items.withConditions languages options lookup =
      items.mapConditions fun condition => condition.phrase lookup languages options := by
  induction items with
  | nil => rfl
  | group item inner rest ihInner ihRest =>
    rw [withConditions, ihInner, ihRest]
    rfl
  | question item rest ih =>
    rw [withConditions, ih]
    rfl

/-- Conditions that are put into words are the expressions that they were before, once their words
are left out. -/
theorem mapConditions_bare_withConditions (languages : List Language) (options : Options)
    (items lookup : Forest) :
    (items.withConditions languages options lookup).mapConditions .bare =
      items.mapConditions .bare := by
  have hbare : Condition.bare ∘ (fun condition => condition.phrase lookup languages options) =
      Condition.bare :=
    funext fun condition => congrArg Condition.ofSource (source_phrase condition _ _ _)
  rw [withConditions_eq, mapConditions_mapConditions, hbare]

end Forest

namespace Survey

/-- The survey with the expressions of its conditions, but without their words. -/
def withoutWords (survey : Survey) : Survey :=
  { survey with items := survey.items.mapConditions .bare }

/-- The survey without the labels that its questions show. -/
def withoutLabels (survey : Survey) : Survey :=
  { survey with items := survey.items.withoutLabels }

end Survey

/-! ## Rows under options -/

namespace SurveyRow

variable {options others : Options}

/-- The options decide about the label of a question, and about nothing else in a row. -/
theorem readingOf_withoutLabel (choices : Option ChoicesSheet) (row : SurveyRow)
    (typeText : String) :
    (readingOf choices options row typeText).mapQuestion .withoutLabel =
      (readingOf choices others row typeText).mapQuestion .withoutLabel := by
  unfold readingOf
  dsimp only
  cases (row.readType typeText).1.type <;> rfl

theorem reading?_congr_options (h : options.lineBreaksAsMarkup = others.lineBreaksAsMarkup)
    (choices : Option ChoicesSheet) (row : SurveyRow) :
    row.reading? choices options = row.reading? choices others := by
  have hlabel : row.shownLabel options = row.shownLabel others := by
    unfold shownLabel
    rw [h]
  unfold reading? readingOf question
  rw [hlabel]

end SurveyRow

section

variable {options others : Options} (choices : Option ChoicesSheet) (rows : List SurveyRow)

theorem assembleRows_withoutLabels :
    (assembleRows choices options rows).mapQuestions .withoutLabel =
      (assembleRows choices others rows).mapQuestions .withoutLabel := by
  refine assembleRows_mapQuestions_congr (fun row => ?_) rows
  unfold SurveyRow.reading?
  rw [Option.map_map, Option.map_map]
  exact congrArg (Option.map · row.typeCell?)
    (funext (SurveyRow.readingOf_withoutLabel choices row))

theorem assembleRows_congr_options (h : options.lineBreaksAsMarkup = others.lineBreaksAsMarkup) :
    assembleRows choices options rows = assembleRows choices others rows := by
  have hreadings : readings choices options rows = readings choices others rows :=
    congrArg (List.filterMap · rows) (funext (SurveyRow.reading?_congr_options h choices))
  unfold assembleRows
  rw [hreadings]

end

/-! ## Words under options -/

namespace Relevance

section

variable {options others : Options}
  (h : options.calculationsAsBoolean = others.calculationsAsBoolean)
  (items : Forest) (language : Language)

include h

/-- A comparison is the one place where the options count. -/
theorem Reader.comparisonSegments_congr (name : String) (operator : Comparison) (value : String) :
    comparisonSegments ⟨items, language, options⟩ name operator value =
      comparisonSegments ⟨items, language, others⟩ name operator value := by
  have hboolean (question : Question) : isBoolean ⟨items, language, options⟩ question =
      isBoolean ⟨items, language, others⟩ question := by
    unfold isBoolean
    rw [h]
  unfold comparisonSegments
  simp only [hboolean]
  rfl

theorem Reader.render_congr_options :
    render ⟨items, language, options⟩ = render ⟨items, language, others⟩ := by
  refine render_congr (fun name => ?_) (comparisonSegments_congr h items language)
  rfl

theorem readerSteps_congr (tokens : List Token) :
    readerSteps ⟨items, language, options⟩ tokens =
      readerSteps ⟨items, language, others⟩ tokens := by
  unfold readerSteps
  rw [Reader.render_congr_options h]

omit language in
/-- One option counts for the words of an expression. -/
theorem phrase_congr (languages : List Language) (expression : String) :
    phrase items languages options expression = phrase items languages others expression := by
  unfold phrase
  simp only [readerSteps_congr h]

/-- The text of an expression in a language depends on none of the other languages. -/
theorem text?_phrase_congr {languages otherLanguages : List Language}
    (hlanguage : language ∈ languages) (hother : language ∈ otherLanguages) (expression : String) :
    (phrase items languages options expression).text.text? language =
      (phrase items otherLanguages others expression).text.text? language := by
  by_cases hworded : IsWorded expression
  · rw [text?_phrase hworded hlanguage, text?_phrase hworded hother,
      Reader.render_congr_options h]
  · rw [text?_phrase_of_not_isWorded hworded hlanguage, text?_phrase_of_not_isWorded hworded hother]

end

end Relevance

/-- Both conditions have words or none has, and their texts in the language are the same. -/
def Condition.SameText (language : Language) (condition other : Condition) : Prop :=
  condition.text.map (·.text? language) = other.text.map (·.text? language)

namespace Condition

variable {options others : Options}
  (h : options.calculationsAsBoolean = others.calculationsAsBoolean) (lookup : Forest)

include h

theorem phrase_congr (languages : List Language) (condition : Condition) :
    condition.phrase lookup languages options = condition.phrase lookup languages others := by
  unfold phrase
  simp only [Relevance.phrase_congr h]

theorem sameText_phrase {language : Language} {languages otherLanguages : List Language}
    (hlanguage : language ∈ languages) (hother : language ∈ otherLanguages)
    (condition : Condition) :
    SameText language (condition.phrase lookup languages options)
      (condition.phrase lookup otherLanguages others) := by
  unfold SameText phrase
  cases condition.source with
  | none => rfl
  | some source =>
    exact congrArg some (text?_phrase_congr h lookup language hlanguage hother source)

end Condition

/-! ## Surveys under options -/

namespace Survey

/-- What the surveys of a form have in common, whatever the options: everything but the words of
conditions and the shown labels of questions, and these as far as the options agree. -/
structure AgreesUnder (options others : Options) (survey other : Survey) : Prop where
  rest : survey.withoutWords.withoutLabels = other.withoutWords.withoutLabels
  labels : options.lineBreaksAsMarkup = others.lineBreaksAsMarkup →
    survey.withoutWords = other.withoutWords
  debug : { options with debug := others.debug } = others → survey = other
  /-- Item by item, and in each language that both options select. -/
  languages : { options with languages := others.languages } = others →
    List.Forall₂ (fun condition changed =>
        ∀ language ∈ options.languages.select survey.languages,
          language ∈ others.languages.select other.languages →
            Condition.SameText language condition changed)
      survey.items.conditions other.items.conditions

/-- The survey of a form whose items and warnings are already there. -/
def ofAssembled (form : Form) (assembled : Assembled) : Survey :=
  let settings := form.settings.getD {}
  { formTitle := settings.formTitle
    formId := settings.formId
    version := settings.version
    defaultLanguage := settings.defaultLanguage.bind form.languages.withLabel?
    style := settings.style.bind Style.ofText?
    instanceName := settings.instanceName
    publicKey := settings.publicKey
    submissionUrl := settings.submissionUrl
    languages := form.languages
    items := assembled.items
    warnings := assembled.warnings }

theorem withoutWords_ofForm (form : Form) (options : Options) :
    (ofForm form options).withoutWords = (ofAssembled form (form.assemble options)).withoutWords :=
  congrArg (fun items => ofAssembled form ⟨items, (form.assemble options).warnings⟩)
    (Forest.mapConditions_bare_withConditions _ options (form.assemble options).items _)

theorem withoutLabels_withoutWords (form : Form) (assembled : Assembled) :
    (ofAssembled form assembled).withoutWords.withoutLabels =
      (ofAssembled form (assembled.mapQuestions .withoutLabel)).withoutWords :=
  congrArg (fun items => ofAssembled form ⟨items, assembled.warnings⟩)
    (Forest.withoutLabels_mapConditions .bare assembled.items)

theorem agreesUnder_ofForm (form : Form) (options others : Options) :
    AgreesUnder options others (ofForm form options) (ofForm form others) where
  rest := by
    have hassembled : (form.assemble options).mapQuestions .withoutLabel =
        (form.assemble others).mapQuestions .withoutLabel :=
      assembleRows_withoutLabels form.choices form.survey.rows
    rw [withoutWords_ofForm, withoutWords_ofForm, withoutLabels_withoutWords,
      withoutLabels_withoutWords, hassembled]
  labels := by
    intro h
    have hassembled : form.assemble options = form.assemble others :=
      assembleRows_congr_options form.choices form.survey.rows h
    rw [withoutWords_ofForm, withoutWords_ofForm, hassembled]
  debug := by
    intro h
    have hassembled : form.assemble options = form.assemble others :=
      assembleRows_congr_options form.choices form.survey.rows (by rw [← h])
    have hboolean : options.calculationsAsBoolean = others.calculationsAsBoolean := by rw [← h]
    have hselected : options.languages = others.languages := by rw [← h]
    have hitems : (ofForm form options).items = (ofForm form others).items := by
      unfold ofForm
      dsimp only
      rw [Forest.withConditions_eq, Forest.withConditions_eq, hassembled, hselected,
        funext (Condition.phrase_congr hboolean _ _)]
    show ofAssembled form ⟨(ofForm form options).items, (form.assemble options).warnings⟩ =
      ofAssembled form ⟨(ofForm form others).items, (form.assemble others).warnings⟩
    rw [hitems, hassembled]
  languages := by
    intro h
    have hassembled : form.assemble options = form.assemble others :=
      assembleRows_congr_options form.choices form.survey.rows (by rw [← h])
    have hboolean : options.calculationsAsBoolean = others.calculationsAsBoolean := by rw [← h]
    rw [conditions_ofForm, conditions_ofForm, hassembled, List.forall₂_map_left_iff,
      List.forall₂_map_right_iff, List.forall₂_same]
    intro condition _ language hlanguage hother
    exact Condition.sameText_phrase hboolean _ hlanguage hother condition

/-- Options only change what they are about: a workbook cannot be converted under both options for
the same reason, or its two surveys agree in all that the options leave alone. -/
theorem ofWorkbook_changedOptions (workbook : Workbook) (options others : Options) :
    (∃ fault, ofWorkbook workbook options = .error fault ∧
      ofWorkbook workbook others = .error fault) ∨
    ∃ survey other, ofWorkbook workbook options = .ok survey ∧
      ofWorkbook workbook others = .ok other ∧ AgreesUnder options others survey other := by
  unfold ofWorkbook
  cases Form.ofWorkbook workbook with
  | error fault => exact .inl ⟨fault, rfl, rfl⟩
  | ok form => exact .inr ⟨_, _, rfl, rfl, agreesUnder_ofForm form options others⟩

end Survey

end Questionnaire
