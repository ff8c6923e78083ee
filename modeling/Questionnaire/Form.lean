import Questionnaire.Sheet.Choices
import Questionnaire.Sheet.Settings
import Questionnaire.Sheet.Survey

/-!
# Forms

A form is what its worksheets say. A worksheet is recognised by the word in its name, and the
first of several counts. Faults are reported in the order survey, choices, settings.

Main definitions:

* `Form.ofWorkbook`: the form of a workbook.
-/

namespace Questionnaire

structure Form where
  survey : SurveySheet
  choices : Option ChoicesSheet
  settings : Option Settings
  deriving DecidableEq

namespace Form

/-- The error of a workbook without `survey` worksheet, from the worksheets it does have. -/
def surveyMissing (choices settings : Option Worksheet) : FormError :=
  match choices, settings with
  | some _, some _ => .worksheetMissing .survey
  | none, some _ => .worksheetsMissing [.survey, .choices]
  | some _, none => .worksheetsMissing [.survey, .settings]
  | none, none => .worksheetsMissing [.survey, .choices, .settings]

/-- Reads a worksheet that may be missing. -/
def readOptional {α : Type} (read : Worksheet → Except FormError α) :
    Option Worksheet → Except FormError (Option α)
  | none => .ok none
  | some worksheet => (read worksheet).map some

def ofWorkbook (workbook : Workbook) : Except FormError Form :=
  let choices := workbook.worksheet? SheetKind.choices.title
  let settings := workbook.worksheet? SheetKind.settings.title
  match workbook.worksheet? SheetKind.survey.title with
  | none => .error (surveyMissing choices settings)
  | some survey => do
    return {
      survey := ← SurveySheet.ofWorksheet survey
      choices := ← readOptional ChoicesSheet.ofWorksheet choices
      settings := ← readOptional Settings.ofWorksheet settings }

end Form

end Questionnaire
