import Questionnaire.Proofs.Assembly.OwnWarnings
import Questionnaire.Proofs.Relevance.WrittenComparisons
import Questionnaire.Proofs.Survey.Conditions

/-!
# Compared answers

A condition that compares a question with a value is resolved on the worksheets: the question is the
first row of the survey worksheet that asks one with the name, wherever it stands, and the value is
the first row of the choices worksheet with the name in the list of this question.

Results:

* `Form.question?_assemble`: a question is looked up in sheet order.
* `SurveyRow.answer?_askedQuestion`: an answer is looked up in the list of its question.
* `Survey.text?_comparison`: what a comparison says in each language.
-/

namespace Questionnaire

open Relevance

/-! ## Looking up rows -/

namespace Form

/-- The first row that asks a question with the name. -/
def questionRow? (form : Form) (name : String) : Option SurveyRow :=
  form.survey.rows.find? fun row => row.asksQuestion ∧ row.name = some name

/-- The first choice of a list with the name. -/
def choice? (form : Form) (list name : String) : Option ChoiceRow :=
  form.choices.bind fun sheet =>
    sheet.rows.find? fun choice => choice.list = some list ∧ choice.name = some name

end Form

theorem getD_empty_eq_iff {text : Option String} {name : String} (h : name ≠ "") :
    text.getD "" = name ↔ text = some name := by
  cases text with
  | none => simpa using Ne.symm h
  | some text => simp

/-- A question is the first one with its name in sheet order, at whatever depth it stands. -/
theorem Form.question?_assemble (form : Form) (options : Options) {name : String} (h : name ≠ "") :
    (form.assemble options).items.question? name =
      (form.questionRow? name).map (SurveyRow.askedQuestion form.choices options) := by
  rw [Forest.question?, Form.assemble, questions_assembleRows, List.find?_map, List.find?_filter,
    Form.questionRow?]
  have hname (row : SurveyRow) :
      ((fun question : Question => decide (question.name = name)) ∘
        SurveyRow.askedQuestion form.choices options) row = true ↔ row.name = some name :=
    decide_eq_true_iff.trans (getD_empty_eq_iff h)
  simp only [hname]

namespace SurveyRow

/-- An answer is the first choice with its name in the list of the question. -/
theorem answer?_askedQuestion (form : Form) (options : Options) {row : SurveyRow}
    (h : row.spec.type.requiresAnswers = true) {list : String} (hlist : row.spec.list? = some list)
    (id : String) :
    (row.askedQuestion form.choices options).answer? id =
      (form.choice? list id).map fun choice => ⟨id, choice.label, choice.filters⟩ := by
  rw [Question.answer?, answers_askedQuestion form.choices options h hlist, Form.choice?]
  cases form.choices with
  | none => rfl
  | some sheet =>
    show ((sheet.list list).filterMap answerOf?).find? _ = _
    rw [List.find?_filterMap, ChoicesSheet.list, List.find?_filter]
    have hnamed (choice : ChoiceRow) :
        (answerOf? choice).any (fun answer => answer.id = id) = decide (choice.name = some id) := by
      cases hname : choice.name <;> simp [answerOf?, hname]
    simp only [hnamed, decide_eq_true_eq, Option.bind_some]
    cases hfound : sheet.rows.find?
        (fun choice => choice.list = some list ∧ choice.name = some id) with
    | none => rfl
    | some choice =>
      have hmatches := List.find?_some hfound
      have hname : choice.name = some id := (of_decide_eq_true hmatches).2
      rw [Option.bind_some, Option.map_some, answerOf?, hname, Option.map_some]

end SurveyRow

/-! ## Segments of rows -/

namespace SurveyRow

/-- The label of the question that the row asks, looked up under `name`. -/
def labelSegment (row : SurveyRow) (options : Options) (language : Language) (name : String) :
    Segment :=
  ⟨.question, ((row.shownLabel options).text? language).getD
    ("Question \"" ++ name ++ "\" translation not found;")⟩

theorem questionLabel_askedQuestion (row : SurveyRow) (reader : Reader)
    (choices : Option ChoicesSheet) (name : String) :
    reader.questionLabel name (row.askedQuestion choices reader.options) =
      row.labelSegment reader.options reader.language name := by
  have hlabel : (row.askedQuestion choices reader.options).label = row.shownLabel reader.options :=
    rfl
  unfold Reader.questionLabel labelSegment
  rw [hlabel]
  cases (row.shownLabel reader.options).text? reader.language <;> rfl

end SurveyRow

namespace Form

/-- The label of the choice with the name in a list. -/
def choiceSegment (form : Form) (language : Language) (list name : String) : Segment :=
  match form.choice? list name with
  | none => Reader.answerNotFound name
  | some choice =>
    ⟨.answer, (choice.label.text? language).getD
      ("Answer \"" ++ name ++ "\" translation not found;")⟩

theorem answerSegment_askedQuestion (form : Form) (reader : Reader) {row : SurveyRow}
    (h : row.spec.type.requiresAnswers = true) {list : String} (hlist : row.spec.list? = some list)
    (id : String) :
    reader.answerSegment (row.askedQuestion form.choices reader.options) id =
      form.choiceSegment reader.language list id := by
  have hanswer := SurveyRow.answer?_askedQuestion form reader.options h hlist id
  unfold Reader.answerSegment choiceSegment
  cases hchoice : form.choice? list id with
  | none =>
    rw [hchoice, Option.map_none] at hanswer
    simp only [hanswer]
  | some choice =>
    rw [hchoice, Option.map_some] at hanswer
    simp only [hanswer]
    cases choice.label.text? reader.language <;> rfl

variable (form : Form) (options : Options) (language : Language) {name : String} (hname : name ≠ "")
  (operator : Comparison) (value : String)

include hname

/-- No row asks the question, so neither it nor its answer is found. -/
theorem comparisonSegments_of_missing (hrow : form.questionRow? name = none) :
    (Reader.mk (form.assemble options).items language options).comparisonSegments name operator
        value =
      [Reader.questionNotFound name,
        ⟨.comparison, (Register.ofLanguage language).comparison operator⟩,
        Reader.answerNotFound value] := by
  have hquestion := form.question?_assemble options hname
  rw [hrow, Option.map_none] at hquestion
  simp only [Reader.comparisonSegments, hquestion]
  rfl

/-- The question has a list of choices, among which its answer is looked up. -/
theorem comparisonSegments_of_selection {row : SurveyRow} (hrow : form.questionRow? name = some row)
    (hanswers : row.spec.type.requiresAnswers = true) {list : String}
    (hlist : row.spec.list? = some list) :
    (Reader.mk (form.assemble options).items language options).comparisonSegments name operator
        value =
      [row.labelSegment options language name,
        ⟨.comparison, (Register.ofLanguage language).comparison operator⟩,
        form.choiceSegment language list value] := by
  let reader := Reader.mk (form.assemble options).items language options
  have hquestion : reader.items.question? name =
      some (row.askedQuestion form.choices options) := by
    rw [form.question?_assemble options hname, hrow, Option.map_some]
  have htype : (row.askedQuestion form.choices options).type.type.requiresAnswers = true := hanswers
  have hlabel := row.questionLabel_askedQuestion reader form.choices name
  have hanswer := form.answerSegment_askedQuestion reader hanswers hlist value
  show reader.comparisonSegments name operator value = _
  simp only [Reader.comparisonSegments, hquestion, htype, if_true]
  rw [hlabel, hanswer]
  rfl

end Form

/-! ## Comparisons -/

/-- What the condition of an item says in a language, if its expression compares a question with a
value. The expression is the one in the row of the item. The question is the first row that asks one
with the name, at whatever depth it stands: if there is none, both the question and the answer are
said to be missing; if the row has a list of choices, the answer is the first choice of this list
whose name is the value. -/
theorem Survey.text?_comparison {workbook : Workbook} {options : Options} {survey : Survey}
    (h : Survey.ofWorkbook workbook options = .ok survey) {language : Language}
    (hlanguage : language ∈ options.languages.select survey.languages) {condition : Condition}
    (hcondition : condition ∈ survey.items.conditions) {question value expression : String}
    {operator : Comparison} (hsource : condition.source = some expression)
    (hexpression : expression ∈ comparisonTexts question value operator)
    (hquestion : Text.Tidy question) (hbrace : '\x7d' ∉ question.toList)
    (hvalue : '\x27' ∉ value.toList) :
    let worded : Segment := ⟨.comparison, (Register.ofLanguage language).comparison operator⟩
    ∃ form, Form.ofWorkbook workbook = .ok form ∧
      survey.items.conditions.map Condition.source =
        (form.survey.rows.filter SurveyRow.makesItem).map SurveyRow.relevant ∧
      (form.questionRow? question = none →
        condition.text.bind (·.text? language) = some ((Precondition.ofSegments
          [Reader.questionNotFound question, worded, Reader.answerNotFound value]).text ++ ".")) ∧
      ∀ row, form.questionRow? question = some row → row.spec.type.requiresAnswers = true →
        ∃ list, row.spec.list? = some list ∧
          condition.text.bind (·.text? language) = some ((Precondition.ofSegments
            [row.labelSegment options language question, worded,
              form.choiceSegment language list value]).text ++ ".") := by
  intro worded
  unfold ofWorkbook at h
  cases hform : Form.ofWorkbook workbook with
  | error fault => rw [hform] at h; cases h
  | ok form =>
    rw [hform] at h
    obtain rfl : ofForm form options = survey := Except.ok.inj h
    have hname : question ≠ "" := (Text.tidy_iff.1 hquestion).1
    have hconditions : (ofForm form options).items.conditions =
        (form.assemble options).items.conditions.map fun condition =>
          condition.phrase (form.assemble options).items (options.languages.select form.languages)
            options := conditions_withConditions _ _ _ _
    rw [hconditions] at hcondition
    obtain ⟨original, -, rfl⟩ := List.mem_map.1 hcondition
    rw [source_phrase] at hsource
    have htext : ((original.phrase (form.assemble options).items
        (options.languages.select form.languages) options).text).bind (·.text? language) =
        some ((Precondition.ofSegments
          ((Reader.mk (form.assemble options).items language options).comparisonSegments question
            operator value)).text ++ ".") := by
      rw [text_phrase hsource, Option.bind_some]
      exact text?_phrase_comparisonTexts hlanguage hquestion hbrace hvalue hexpression
    refine ⟨form, rfl, sources_ofForm form options, fun hrow => ?_, fun row hrow hanswers => ?_⟩
    · rw [htext, form.comparisonSegments_of_missing options language hname operator value hrow]
    · obtain ⟨list, hlist⟩ := row.exists_list hanswers
      refine ⟨list, hlist, ?_⟩
      rw [htext, form.comparisonSegments_of_selection options language hname operator value hrow
        hanswers hlist]

/-! ## A form about smoking -/

/-- A group is ended that was never started, and another is never ended. -/
def smokingWorkbook : Workbook :=
  ⟨[.ofTexts "survey"
      [["type", "name", "label::English", "relevant"],
        ["end_group", "", "", ""],
        ["begin_group", "habits", "Habits", ""],
        ["select_one yes_no", "smokes", "Do you smoke?", ""],
        ["text", "brand", "Which brand?", "not(" ++ selectionText "smokes" "no" ++ ")"]],
    .ofTexts "choices"
      [["list_name", "name", "label::English"],
        ["yes_no", "yes", "Yes"],
        ["yes_no", "no", "No"]]]⟩

theorem ofWorkbook_smokingWorkbook :
    ∃ form, Form.ofWorkbook smokingWorkbook = .ok form ∧
      Language.ofLabel "English" ∈ LanguageSelection.inCommon.select form.languages ∧
      (∃ condition ∈ (Survey.ofForm form {}).items.conditions,
        condition.source = some ("not(" ++ selectionText "smokes" "no" ++ ")")) ∧
      (form.questionRow? "smokes").map (fun row => (row.spec, row.shownLabel {})) =
        some (⟨.selectOne, some (.selection "yes_no" false)⟩,
          .constant [Language.ofLabel "English"] "Do you smoke?") ∧
      form.choiceSegment (Language.ofLabel "English") "yes_no" "no" = ⟨.answer, "No"⟩ := by
  refine exists_ok_of_any ?_
  decide +kernel

theorem text?_comparison_smokingWorkbook :
    ∃ survey condition, Survey.ofWorkbook smokingWorkbook {} = .ok survey ∧
      condition ∈ survey.items.conditions ∧
      condition.text.bind (·.text? (Language.ofLabel "English")) =
        some ((Precondition.ofSegments
          [⟨.question, "Do you smoke?"⟩, ⟨.comparison, "was NOT answered with"⟩,
            ⟨.answer, "No"⟩]).text ++ ".") := by
  obtain ⟨form, hform, hlanguage, ⟨condition, hcondition, hsource⟩, hrow, hchoice⟩ :=
    ofWorkbook_smokingWorkbook
  obtain ⟨row, hrow, hread⟩ := Option.map_eq_some_iff.1 hrow
  obtain ⟨hspec, hlabel⟩ := Prod.mk.inj hread
  have hsurvey : Survey.ofWorkbook smokingWorkbook {} = .ok (Survey.ofForm form {}) := by
    rw [Survey.ofWorkbook, hform]
    rfl
  have hexpression : "not(" ++ selectionText "smokes" "no" ++ ")" ∈
      comparisonTexts "smokes" "no" .notEqual := by
    simp [comparisonTexts]
  obtain ⟨other, hother, -, -, hfound⟩ := Survey.text?_comparison hsurvey hlanguage hcondition
    hsource hexpression (by decide) (by decide) (by decide)
  obtain rfl : form = other := Except.ok.inj (hform.symm.trans hother)
  obtain ⟨list, hlist, htext⟩ := hfound row hrow (by rw [hspec]; rfl)
  obtain rfl : "yes_no" = list := by
    rw [hspec] at hlist
    exact Option.some.inj hlist
  have hsegment : row.labelSegment {} (Language.ofLabel "English") "smokes" =
      ⟨.question, "Do you smoke?"⟩ := by
    rw [SurveyRow.labelSegment, hlabel]
    decide
  have hworded : (Register.ofLanguage (Language.ofLabel "English")).comparison .notEqual =
      "was NOT answered with" := by
    decide
  refine ⟨_, condition, hsurvey, hcondition, ?_⟩
  rw [htext, hsegment, hchoice, hworded]

end Questionnaire
