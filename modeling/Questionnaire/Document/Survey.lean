import Questionnaire.Json.Value
import Questionnaire.Survey

/-!
# Surveys as documents

Main definitions:

* `Survey.document`: a survey with everything in it.
* `Forest.documents`: the items of a forest, each an object with the one key `group` or
  `question`.
-/

namespace Questionnaire

open Json (Value)

/-! ## Languages -/

def Language.document (language : Language) : Value :=
  .object [("stringId", .string language.id), ("label", .string language.label)]

def Language.documents (languages : List Language) : Value :=
  .array (languages.map Language.document)

def Localized.document (text : Localized) : Value :=
  .array (text.entries.map fun entry =>
    .object [("language", entry.1.document), ("translation", .ofText? entry.2)])

def LanguagesAvailable.document (languages : LanguagesAvailable) : Value :=
  .object
    [("all", Language.documents languages.all),
     ("forLabelCluster", .object
      [("inCommon", Language.documents languages.inCommon),
       ("inGroupsAndQuestions", Language.documents languages.inGroupsAndQuestions),
       ("inSelectionAnswers", Language.documents languages.inSelectionAnswers)])]

/-! ## Warnings -/

def Fault.document : Fault → Value
  | .groupNotEnded => .string "groupStartedWithoutEnding"
  | .groupNotStarted => .string "groupEndedWithoutStarting"
  | .choicesMissing question type =>
    .object [("referenceToChoicesSheetButMissing",
      .object [("question", .string question), ("questionType", .string type)])]
  | .listMissing question type list =>
    .object [("referenceToListButListMissing",
      .object [("question", .string question), ("questionType", .string type),
        ("listName", .string list)])]
  | .invalidType item type =>
    .object [("invalidQuestionTypeOptions",
      .object [("item", .string item), ("itemType", .string type)])]
  | .invalidAgeGroup item ageGroup =>
    .object [("invalidAgeGroup",
      .object [("item", .string item), ("ageGroup", .string ageGroup)])]

def Warning.document (warning : Warning) : Value :=
  .object
    [("kind", warning.fault.document), ("row", .ofText? warning.row),
     ("column", .ofText? warning.column), ("cell", .ofText? warning.cell),
     ("formItemId", .ofText? warning.itemId), ("formItemType", .ofText? warning.itemType)]

/-- A list that is absent when there is nothing in it. -/
def someArray {α : Type} (document : α → Value) (items : List α) : Value :=
  match items with
  | [] => .null
  | _ :: _ => .array (items.map document)

/-- The warnings of a form, or nothing when there are none. -/
def Warnings.document (warnings : Warnings) : Value :=
  if warnings.isEmpty then .null
  else .object
    [("general", someArray Warning.document warnings.general),
     ("specific", someArray Warning.document warnings.specific)]

/-! ## Items -/

def TypeOptions.document : TypeOptions → Value
  | .selection list orOther => .object [("listName", .string list), ("orOther", .bool orOther)]
  | .ranking list => .object [("listName", .string list)]
  | .file name => .object [("file", .string name)]

def TypeSpec.document (spec : TypeSpec) : Value :=
  .object
    [("type", .string spec.type.key),
     ("options", match spec.options with
      | some options => options.document
      | none => .null)]

def ChoiceFilter.document (choiceFilter : ChoiceFilter) : Value :=
  .object [("name", .string choiceFilter.name), ("value", .string choiceFilter.value)]

def Answer.document (answer : Answer) : Value :=
  .object
    [("answerID", .string answer.id), ("answerLabel", answer.label.document),
     ("choiceFilters", someArray ChoiceFilter.document answer.filters)]

/-- The fields of a condition, common to groups and questions. -/
def Condition.fields (condition : Condition) : List (String × Value) :=
  [("relevanceUnprocessed", .ofText? condition.source),
   ("relevance", match condition.text with
    | some text => text.document
    | none => .null),
   ("relevanceSteps", .array (condition.steps.map Localized.document))]

def AgeGroup.document (ageGroup : Option AgeGroup) : Value := .ofText? (ageGroup.map AgeGroup.text)

def Details.document (details : Details) : Value :=
  .object
    [("required", .ofText? details.required), ("notes", .ofText? details.notes),
     ("appearance", .ofText? details.appearance), ("calculation", .ofText? details.calculation),
     ("default", .ofText? details.defaultValue), ("constraint", .ofText? details.constraint),
     ("constraintMessage", details.constraintMessage.document),
     ("readOnly", .ofText? details.readOnly)]

def Question.document (question : Question) : Value :=
  .object
    ([("typeAndOptions", question.type.document), ("typeFullRaw", .string question.typeText),
      ("name", .string question.name), ("label", question.label.document),
      ("labelFull", question.labelFull.document), ("hint", question.hint.document),
      ("ageGroup", AgeGroup.document question.ageGroup),
      ("answers", .array (question.answers.map Answer.document)),
      ("choiceFilterUnprocessed", .ofText? question.choiceFilter),
      ("details", question.details.document),
      ("warnings", someArray Warning.document question.warnings)]
      ++ question.condition.fields)

def GroupKind.text : GroupKind → String
  | .basic => "basic"
  | .repeated => "repeatTable"

/-- A group with the items in it. -/
def Group.document (group : Group) (items : List Value) : Value :=
  .object
    ([("groupType", .string group.kind.text), ("name", .ofText? group.name),
      ("label", group.label.document), ("ageGroup", AgeGroup.document group.ageGroup),
      ("items", .array items)]
      ++ group.condition.fields)

def Forest.documents : Forest → List Value
  | .nil => []
  | .group g inner rest => .object [("group", g.document inner.documents)] :: rest.documents
  | .question q rest => .object [("question", q.document)] :: rest.documents

/-! ## Surveys -/

def Survey.document (survey : Survey) : Value :=
  .object
    [("formTitle", .ofText? survey.formTitle), ("formId", .ofText? survey.formId),
     ("version", .ofText? survey.version),
     ("defaultLanguage", match survey.defaultLanguage with
      | some language => language.document
      | none => .null),
     ("style", .ofText? (survey.style.map Style.text)),
     ("instanceName", .ofText? survey.instanceName), ("publicKey", .ofText? survey.publicKey),
     ("submissionUrl", .ofText? survey.submissionUrl),
     ("languagesAvailable", survey.languages.document),
     ("items", .array survey.items.documents), ("warnings", survey.warnings.document)]

end Questionnaire
