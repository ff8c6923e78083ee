import Mathlib.Data.List.Forall2
import Questionnaire.Proofs.Assembly.RowByRow
import Questionnaire.Proofs.Form.Worksheets
import Questionnaire.Proofs.QuestionType.Written

/-!
# What a question is warned of

A question carries the warnings of its row: that its cell names no type, that its age group is none,
and that its list of choices is missing. So its own warnings tell why it has the type `unknown` and
why it has no answers.

There are two exceptions. A cell that begins with the word `unknown` names the unknown type, and
nobody is warned of it. And a list may have choices of which none has a name.

Main definitions:

* `listedChoices`: the choices of a list, if there is a worksheet of choices.
* `Question.WarnedOfType`, `Question.WarnedOfList`: a question is warned of its type, of its list.

Results:

* `SurveyRow.mem_warnings_iff`: the warnings that a question carries.
* `typesReported_assembleRows`: a type is unknown when the question is warned of it, or when it is
  named so.
* `answered_assembleRows`: the answers are the named choices of the list, and there are none when
  the question is warned of the list.
-/

namespace Questionnaire

/-! ## Choices of a list -/

/-- The choices of a list in sheet order. There are none without a worksheet. -/
def listedChoices (choices : Option ChoicesSheet) (list : String) : List ChoiceRow :=
  choices.elim [] fun sheet => sheet.list list

/-- What is wrong when a list has no choices. -/
def listFault (choices : Option ChoicesSheet) (question type list : String) : Fault :=
  match choices with
  | none => .choicesMissing question type
  | some _ => .listMissing question type list

/-- The choice has the name, the label and the filters of the answer. -/
structure ChoiceRow.IsAnswer (choice : ChoiceRow) (answer : Answer) : Prop where
  name : choice.name = some answer.id
  label : choice.label = answer.label
  filters : choice.filters = answer.filters

/-- The choice has a name. -/
def ChoiceRow.named (choice : ChoiceRow) : Bool := choice.name.isSome

namespace SurveyRow

/-- The choices with a name are the answers, one by one. -/
theorem forall₂_isAnswer (choices : List ChoiceRow) :
    List.Forall₂ ChoiceRow.IsAnswer (choices.filter ChoiceRow.named)
      (choices.filterMap answerOf?) := by
  induction choices with
  | nil => exact .nil
  | cons choice choices ih =>
    cases hname : choice.name with
    | none =>
      rw [List.filter_cons_of_neg (by simp [ChoiceRow.named, hname]),
        List.filterMap_cons_none (by simp [answerOf?, hname])]
      exact ih
    | some id =>
      have hanswer : answerOf? choice = some ⟨id, choice.label, choice.filters⟩ := by
        simp [answerOf?, hname]
      rw [List.filter_cons_of_pos (by simp [ChoiceRow.named, hname]),
        List.filterMap_cons_some hanswer]
      exact .cons ⟨hname, rfl, rfl⟩ ih

/-- A type that requires answers names a list of choices. -/
theorem exists_list (row : SurveyRow) (h : row.spec.type.requiresAnswers = true) :
    ∃ list, row.spec.list? = some list := by
  unfold spec at h ⊢
  cases hparse : TypeSpec.parse (row.typeText.getD "") with
  | ok spec =>
    rw [hparse] at h
    exact (TypeSpec.proper_of_parse hparse).exists_list h
  | error fault => rw [hparse] at h; cases h

theorem answers_askedQuestion (choices : Option ChoicesSheet) (options : Options)
    {row : SurveyRow} (h : row.spec.type.requiresAnswers = true) {list : String}
    (hlist : row.spec.list? = some list) :
    (row.askedQuestion choices options).answers =
      (listedChoices choices list).filterMap answerOf? := by
  show (row.readAnswers choices row.spec _).1 = _
  rw [readAnswers, if_pos h, hlist]
  cases choices with
  | none => rfl
  | some sheet =>
    dsimp only [listedChoices, Option.getD_some, Option.elim_some]
    cases sheet.list list <;> rfl

/-! ## Warnings of a row -/

theorem mem_readType_iff {row : SurveyRow} {typeText : String} {warning : Warning} :
    warning ∈ (row.readType typeText).2 ↔
      (∃ fault, TypeSpec.parse typeText = .error fault) ∧
        warning = row.typeWarning typeText := by
  unfold readType
  cases TypeSpec.parse typeText <;> simp

theorem mem_readAgeGroup_iff {row : SurveyRow} {shown : String} {warning : Warning} :
    warning ∈ (row.readAgeGroup shown).2 ↔
      ∃ text, row.ageGroup = some text ∧ AgeGroup.ofText? text = none ∧
        warning = row.ageGroupWarning shown text := by
  unfold readAgeGroup
  cases row.ageGroup with
  | none => simp
  | some text => cases h : AgeGroup.ofText? text <;> simp [h]

theorem mem_readAnswers_iff {row : SurveyRow} {choices : Option ChoicesSheet} {spec : TypeSpec}
    {shown : String} {warning : Warning} :
    warning ∈ (row.readAnswers choices spec shown).2 ↔
      spec.type.requiresAnswers = true ∧ listedChoices choices (spec.list?.getD "") = [] ∧
        warning = row.answersWarning shown
          (listFault choices (row.name.getD "") shown (spec.list?.getD "")) := by
  unfold readAnswers
  by_cases h : spec.type.requiresAnswers = true
  · rw [if_pos h]
    cases choices with
    | none => simp [h, listedChoices, listFault]
    | some sheet =>
      cases hrows : sheet.list (spec.list?.getD "") with
      | nil => simp [h, hrows, listedChoices, listFault]
      | cons choice others => simp [hrows, listedChoices]
  · simp [h]

section

variable {row : SurveyRow} {choices : Option ChoicesSheet} {options : Options} {warning : Warning}

/-- What a question is warned of: its type, its age group and its list. -/
theorem mem_warnings_iff :
    warning ∈ (row.askedQuestion choices options).warnings ↔
      warning ∈ (row.readType (row.typeText.getD "")).2 ∨
      warning ∈ (row.readAgeGroup (shownType row.spec (row.typeText.getD ""))).2 ∨
      warning ∈
        (row.readAnswers choices row.spec (shownType row.spec (row.typeText.getD ""))).2 := by
  show warning ∈ _ ++ _ ++ _ ↔ _
  rw [List.mem_append, List.mem_append, or_assoc]

/-- The warnings of a question name its row. -/
theorem row_of_mem_warnings (h : warning ∈ (row.askedQuestion choices options).warnings) :
    warning.row = some row.reference := by
  rcases mem_warnings_iff.1 h with h | h | h
  · obtain ⟨-, rfl⟩ := mem_readType_iff.1 h
    rfl
  · obtain ⟨text, -, -, rfl⟩ := mem_readAgeGroup_iff.1 h
    rfl
  · obtain ⟨-, -, rfl⟩ := mem_readAnswers_iff.1 h
    rfl

theorem fault_of_mem_readAnswers {spec : TypeSpec} {shown : String}
    (h : warning ∈ (row.readAnswers choices spec shown).2) :
    warning.fault = listFault choices (row.name.getD "") shown (spec.list?.getD "") := by
  obtain ⟨-, -, rfl⟩ := mem_readAnswers_iff.1 h
  rfl

/-- A warning of the type of a question is one that the type cell gives rise to. -/
theorem mem_readType_of_fault {item type : String}
    (h : warning ∈ (row.askedQuestion choices options).warnings)
    (hfault : warning.fault = .invalidType item type) :
    warning ∈ (row.readType (row.typeText.getD "")).2 := by
  rcases mem_warnings_iff.1 h with h | h | h
  · exact h
  · obtain ⟨text, -, -, rfl⟩ := mem_readAgeGroup_iff.1 h
    cases hfault
  · rw [fault_of_mem_readAnswers h] at hfault
    cases choices <;> cases hfault

/-- A warning of the list of a question is one that the look-up of the list gives rise to. -/
theorem mem_readAnswers_of_fault {question type list : String}
    (h : warning ∈ (row.askedQuestion choices options).warnings)
    (hfault : warning.fault = listFault choices question type list) :
    warning ∈
      (row.readAnswers choices row.spec (shownType row.spec (row.typeText.getD ""))).2 := by
  rcases mem_warnings_iff.1 h with h | h | h
  · obtain ⟨-, rfl⟩ := mem_readType_iff.1 h
    cases choices <;> cases hfault
  · obtain ⟨text, -, -, rfl⟩ := mem_readAgeGroup_iff.1 h
    cases choices <;> cases hfault
  · exact h

/-- The questions of a form have the warnings of their rows among the specific ones. -/
theorem mem_specific_assembleRows {rows : List SurveyRow} (hrow : row ∈ rows)
    (hasks : row.asksQuestion = true)
    (h : warning ∈ (row.askedQuestion choices options).warnings) :
    warning ∈ (assembleRows choices options rows).warnings.specific := by
  rw [specific_eq_flatMap_ownWarnings]
  refine List.mem_flatMap.2 ⟨row, hrow, ?_⟩
  rw [ownWarnings_of_asksQuestion choices options hasks]
  exact h

end

end SurveyRow

/-! ## Unknown types -/

/-- The question is warned that its cell names no type. -/
def Question.WarnedOfType (question : Question) : Prop :=
  ∃ warning ∈ question.warnings, warning.fault = .invalidType question.name question.typeText

namespace SurveyRow

variable (row : SurveyRow) (choices : Option ChoicesSheet) (options : Options)

theorem warnedOfType_iff :
    (row.askedQuestion choices options).WarnedOfType ↔
      ∃ fault, TypeSpec.parse (row.typeText.getD "") = .error fault := by
  constructor
  · rintro ⟨warning, hm, hfault⟩
    exact (mem_readType_iff.1 (mem_readType_of_fault hm hfault)).1
  · intro h
    exact ⟨_, mem_warnings_iff.2 (.inl (mem_readType_iff.2 ⟨h, rfl⟩)), rfl⟩

/-- The type is unknown if the cell names none, or if it names the unknown type. -/
theorem type_eq_unknown_iff :
    row.spec.type = .unknown ↔
      (∃ fault, TypeSpec.parse (row.typeText.getD "") = .error fault) ∨
        (TypeSpec.words (row.typeText.getD "")).head? = some "unknown" := by
  rw [← TypeSpec.exists_parse_unknown_iff, spec]
  cases TypeSpec.parse (row.typeText.getD "") with
  | error fault => simp [TypeSpec.unknown]
  | ok spec => simp

end SurveyRow

/-- The question of a row is unknown when it is warned of its type, which is then among the specific
warnings, unless the type cell begins with the word `unknown`. Then the question is unknown without
a warning. -/
structure SurveyRow.ReportsType (specific : List Warning) (row : SurveyRow) (question : Question) :
    Prop where
  typeText : row.typeText = some question.typeText
  unknown_iff : (TypeSpec.words question.typeText).head? ≠ some "unknown" →
    (question.type.type = .unknown ↔ question.WarnedOfType)
  unreported : (TypeSpec.words question.typeText).head? = some "unknown" →
    question.type.type = .unknown ∧ ¬ question.WarnedOfType
  specific : ∀ warning ∈ question.warnings,
    warning.fault = .invalidType question.name question.typeText →
      warning ∈ specific ∧ warning.row = some row.reference

open SurveyRow

/-- The unknown types of a form, question by question in sheet order: they are reported, but for
those that are called so. -/
theorem typesReported_assembleRows (choices : Option ChoicesSheet) (options : Options)
    (rows : List SurveyRow) :
    List.Forall₂ (ReportsType (assembleRows choices options rows).warnings.specific)
      (rows.filter asksQuestion) (assembleRows choices options rows).items.questions := by
  rw [questions_assembleRows, List.forall₂_map_right_iff, List.forall₂_same]
  intro row hm
  obtain ⟨hrow, hasks⟩ := List.mem_filter.1 hm
  have hcounts : row.counts = true := by
    simp only [asksQuestion, Bool.and_eq_true] at hasks
    exact hasks.1.1
  have htext : row.typeText = some (row.typeText.getD "") := by
    simp only [counts, Bool.and_eq_true] at hcounts
    exact (Option.some_get! row.typeText hcounts.2).symm
  have hunknown := row.type_eq_unknown_iff
  rw [← row.warnedOfType_iff choices options] at hunknown
  refine ⟨htext, fun hword => ?_, fun hword => ?_, fun warning hwarning _ => ?_⟩
  · exact hunknown.trans (or_iff_left hword)
  · -- a cell that names the unknown type is read without an error
    refine ⟨hunknown.2 (.inr hword), fun hwarns => ?_⟩
    obtain ⟨fault, herror⟩ := (row.warnedOfType_iff choices options).1 hwarns
    obtain ⟨spec, hok, -⟩ := TypeSpec.exists_parse_unknown_iff.2 hword
    cases hok.symm.trans herror
  · exact ⟨mem_specific_assembleRows hrow hasks hwarning, row_of_mem_warnings hwarning⟩

/-- A type that is called `unknown` is not reported. -/
def namedUnknownWorkbook : Workbook :=
  ⟨[.ofTexts "survey" [["type", "name", "relevant"], ["unknown", "q1", ""]]]⟩

theorem unreported_namedUnknownWorkbook :
    ∃ form, Form.ofWorkbook namedUnknownWorkbook = .ok form ∧
      (form.assemble {}).items.questions.map (fun question => (question.name, question.type)) =
        [("q1", TypeSpec.unknown)] ∧
      (form.assemble {}).items.questions.flatMap Question.warnings = [] ∧
      (form.assemble {}).warnings = ⟨[], []⟩ := by
  refine exists_ok_of_any ?_
  decide +kernel

/-! ## Missing lists -/

/-- The question is warned that its list has no choices. -/
def Question.WarnedOfList (question : Question) (choices : Option ChoicesSheet) (list : String) :
    Prop :=
  ∃ warning ∈ question.warnings,
    warning.fault = listFault choices question.name question.type.text list

theorem SurveyRow.warnedOfList_iff (choices : Option ChoicesSheet) (options : Options)
    {row : SurveyRow} (h : row.spec.type.requiresAnswers = true) {list : String}
    (hlist : row.spec.list? = some list) :
    (row.askedQuestion choices options).WarnedOfList choices list ↔
      listedChoices choices list = [] := by
  constructor
  · rintro ⟨warning, hm, hfault⟩
    obtain ⟨-, hnil, -⟩ := mem_readAnswers_iff.1 (mem_readAnswers_of_fault hm hfault)
    rw [hlist] at hnil
    exact hnil
  · intro hnil
    -- the warning shows the type by its text, because only an unknown type is shown by its cell
    have hknown : row.spec.type ≠ .unknown := by
      intro hunknown
      rw [hunknown] at h
      cases h
    have hshown : shownType row.spec (row.typeText.getD "") = row.spec.text := if_neg hknown
    have hempty : listedChoices choices (row.spec.list?.getD "") = [] := by
      rw [hlist]
      exact hnil
    refine ⟨_, mem_warnings_iff.2 (.inr (.inr (mem_readAnswers_iff.2 ⟨h, hempty, rfl⟩))), ?_⟩
    show listFault choices (row.name.getD "") _ _ = listFault choices _ row.spec.text list
    rw [hshown, hlist]
    rfl

/-- A question whose answers come from a list has those that are named in the list, in sheet order.
It has none when it is warned of the list, unless the list has choices of which none has a name. -/
theorem answered_assembleRows (choices : Option ChoicesSheet) (options : Options)
    (rows : List SurveyRow) {question : Question}
    (hm : question ∈ (assembleRows choices options rows).items.questions)
    (hanswers : question.type.type.requiresAnswers = true) :
    ∃ list, question.type.list? = some list ∧
      List.Forall₂ ChoiceRow.IsAnswer ((listedChoices choices list).filter ChoiceRow.named)
        question.answers ∧
      (listedChoices choices list = [] ∨
          (∃ choice ∈ listedChoices choices list, choice.named = true) →
        (question.answers = [] ↔ question.WarnedOfList choices list)) := by
  rw [questions_assembleRows] at hm
  obtain ⟨row, -, rfl⟩ := List.mem_map.1 hm
  obtain ⟨list, hlist⟩ := row.exists_list hanswers
  have hnamed : List.Forall₂ ChoiceRow.IsAnswer
      ((listedChoices choices list).filter ChoiceRow.named)
      (row.askedQuestion choices options).answers := by
    rw [answers_askedQuestion choices options hanswers hlist]
    exact forall₂_isAnswer _
  refine ⟨list, hlist, hnamed, fun hsome => ?_⟩
  rw [warnedOfList_iff choices options hanswers hlist]
  constructor
  · -- no choice has a name, so by assumption there is none
    intro hempty
    rw [hempty, List.forall₂_nil_right_iff, List.filter_eq_nil_iff] at hnamed
    rcases hsome with hnil | ⟨choice, hchoice, hname⟩
    · exact hnil
    · exact absurd hname (hnamed choice hchoice)
  · intro hnil
    rw [answers_askedQuestion choices options hanswers hlist, hnil]
    rfl

/-- One size has no name, and no color has one. The list of shapes is missing. -/
def clothesWorkbook : Workbook :=
  ⟨[.ofTexts "survey"
      [["type", "name", "relevant"],
        ["select_one sizes", "size", ""],
        ["select_multiple colors", "color", ""],
        ["rank shapes", "shape", ""]],
    .ofTexts "choices"
      [["list_name", "name", "label"],
        ["sizes", "", "Small"],
        ["colors", "", "Red"],
        ["sizes", "m", "Medium"]]]⟩

theorem ofWorkbook_clothesWorkbook :
    ∃ form, Form.ofWorkbook clothesWorkbook = .ok form ∧
      (∃ question ∈ (form.assemble {}).items.questions,
        question.type = ⟨.rank, some (.ranking "shapes")⟩ ∧ question.answers = []) ∧
      listedChoices form.choices "shapes" = [] := by
  refine exists_ok_of_any ?_
  decide +kernel

theorem warnedOfList_clothesWorkbook :
    ∃ form question, Form.ofWorkbook clothesWorkbook = .ok form ∧
      question ∈ (form.assemble {}).items.questions ∧
      question.type = ⟨.rank, some (.ranking "shapes")⟩ ∧
      question.WarnedOfList form.choices "shapes" := by
  obtain ⟨form, hform, ⟨question, hm, htype, hempty⟩, hnil⟩ := ofWorkbook_clothesWorkbook
  refine ⟨form, question, hform, hm, htype, ?_⟩
  obtain ⟨list, hlist, -, hwarns⟩ :=
    answered_assembleRows form.choices {} form.survey.rows hm (by rw [htype]; rfl)
  obtain rfl : "shapes" = list := by
    rw [htype] at hlist
    exact Option.some.inj hlist
  exact (hwarns (.inl hnil)).1 hempty

/-- Choices without a name are no answers, and nobody is warned of them. -/
theorem nameless_clothesWorkbook :
    ∃ form, Form.ofWorkbook clothesWorkbook = .ok form ∧
      ["sizes", "colors"].map (fun list => (listedChoices form.choices list).length) = [2, 1] ∧
      (((form.assemble {}).items.questions.take 2).map fun question =>
          (question.type.text, question.answers.map Answer.id, question.warnings)) =
        [("select_one sizes", ["m"], []), ("select_multiple colors", [], [])] := by
  refine exists_ok_of_any ?_
  decide +kernel

end Questionnaire
