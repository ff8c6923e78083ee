import Questionnaire.Item.Forest
import Questionnaire.Options
import Questionnaire.Sheet.Survey

/-!
# What a row stands for

A row of the survey worksheet opens a group, ends one or asks a question. This depends on the row
alone, on the choices and on the options, and so do the warnings that it gives rise to.

Main definitions:

* `Entry`: the meaning of a row; `Reading`: the meaning with the warnings.
* `SurveyRow.reading?`: reads a row. Vacant rows and rows without a type mean nothing.
-/

namespace Questionnaire

/-- The end of a group, as its row words it. -/
structure GroupEnd where
  row : String
  name : Option String
  type : String
  deriving DecidableEq

/-- The meaning of a row. -/
inductive Entry where
  | opening (group : Group)
  | ending (groupEnd : GroupEnd)
  | question (question : Question)
  deriving DecidableEq

structure Reading where
  entry : Entry
  warnings : List Warning
  deriving DecidableEq

namespace SurveyRow

/-! ## Types -/

/-- The type of the row, unless the row is vacant. -/
def typeCell? (row : SurveyRow) : Option String := if row.vacant then none else row.typeText

/-- The row names this type, which is none. -/
def typeWarning (row : SurveyRow) (typeText : String) : Warning :=
  let warning : Warning :=
    { fault := .invalidType (row.name.getD "") typeText, row := some row.reference }
  (warning.withCell "type" (some typeText)).withItem row.name (some typeText)

/-- The type that a cell names, with a warning if it names none. -/
def readType (row : SurveyRow) (typeText : String) : TypeSpec × List Warning :=
  match TypeSpec.parse typeText with
  | .ok spec => (spec, [])
  | .error _ => (TypeSpec.unknown, [row.typeWarning typeText])

/-- The type as warnings show it. -/
def shownType (spec : TypeSpec) (typeText : String) : String :=
  if spec.type = .unknown then typeText else spec.text

/-! ## Age groups -/

def ageGroupWarning (row : SurveyRow) (shown ageGroup : String) : Warning :=
  let warning : Warning :=
    { fault := .invalidAgeGroup (row.name.getD "") ageGroup, row := some row.reference }
  (warning.withCell "agegroup" (some ageGroup)).withItem row.name (some shown)

/-- The age group of the row, with a warning if its cell names none. -/
def readAgeGroup (row : SurveyRow) (shown : String) : Option AgeGroup × List Warning :=
  match row.ageGroup with
  | none => (none, [])
  | some text =>
    match AgeGroup.ofText? text with
    | some ageGroup => (some ageGroup, [])
    | none => (none, [row.ageGroupWarning shown text])

/-! ## Answers -/

/-- A list of answers is missing for the given reason. -/
def answersWarning (row : SurveyRow) (shown : String) (fault : Fault) : Warning :=
  let warning : Warning := { fault := fault, row := some row.reference }
  (warning.withCell "type" row.typeText).withItem row.name (some shown)

/-- A choice with a name is an answer. -/
def answerOf? (choice : ChoiceRow) : Option Answer :=
  choice.name.map fun id => ⟨id, choice.label, choice.filters⟩

/-- The answers of a question, with a warning if its list is missing. -/
def readAnswers (row : SurveyRow) (choices : Option ChoicesSheet) (spec : TypeSpec)
    (shown : String) : List Answer × List Warning :=
  if spec.type.requiresAnswers then
    let question := row.name.getD ""
    let list := spec.list?.getD ""
    match choices with
    | none => ([], [row.answersWarning shown (.choicesMissing question shown)])
    | some sheet =>
      match sheet.list list with
      | [] => ([], [row.answersWarning shown (.listMissing question shown list)])
      | rows@(_ :: _) => (rows.filterMap answerOf?, [])
  else ([], [])

/-! ## Rows -/

/-- The label as it is shown. -/
def shownLabel (row : SurveyRow) (options : Options) : Localized :=
  if options.lineBreaksAsMarkup then
    row.label.mapTexts fun text => Text.replace text "\n" "<br />"
  else row.label

def details (row : SurveyRow) : Details where
  required := row.required
  notes := row.notes
  appearance := row.appearance
  calculation := row.calculation
  defaultValue := row.defaultValue
  constraint := row.constraint
  constraintMessage := row.constraintMessage
  readOnly := row.readOnly

/-- The group that the row opens. -/
def group (row : SurveyRow) (kind : GroupKind) (ageGroup : Option AgeGroup) : Group where
  kind := kind
  name := row.name
  label := row.label
  ageGroup := ageGroup
  condition := .ofSource row.relevant

/-- The question that the row asks. -/
def question (row : SurveyRow) (options : Options) (spec : TypeSpec) (typeText : String)
    (ageGroup : Option AgeGroup) (answers : List Answer) (warnings : List Warning) : Question where
  type := spec
  typeText := typeText
  name := row.name.getD ""
  label := row.shownLabel options
  labelFull := row.label
  hint := row.hint
  ageGroup := ageGroup
  answers := answers
  condition := .ofSource row.relevant
  choiceFilter := row.choiceFilter
  details := row.details
  warnings := warnings

/-- The meaning of a row with the given type cell. -/
def readingOf (choices : Option ChoicesSheet) (options : Options) (row : SurveyRow)
    (typeText : String) : Reading :=
  let typed := row.readType typeText
  let shown := shownType typed.1 typeText
  let aged := row.readAgeGroup shown
  let warnings := typed.2 ++ aged.2
  match typed.1.type with
  | .beginGroup => ⟨.opening (row.group .basic aged.1), warnings⟩
  | .beginRepeat => ⟨.opening (row.group .repeated aged.1), warnings⟩
  | .endGroup | .endRepeat => ⟨.ending ⟨row.reference, row.name, shown⟩, warnings⟩
  | _ =>
    let answered := row.readAnswers choices typed.1 shown
    let warnings := warnings ++ answered.2
    ⟨.question (row.question options typed.1 typeText aged.1 answered.1 warnings), warnings⟩

/-- The meaning of a row, if it has one. -/
def reading? (choices : Option ChoicesSheet) (options : Options) (row : SurveyRow) :
    Option Reading :=
  row.typeCell?.map (readingOf choices options row)

end SurveyRow

end Questionnaire
