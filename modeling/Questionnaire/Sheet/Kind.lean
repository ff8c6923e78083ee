/-!
# The three worksheets of a form

A form has a `survey` worksheet of groups and questions, a `choices` worksheet of answers and a
`settings` worksheet about the form itself. Only the first is required.
-/

namespace Questionnaire

inductive SheetKind where
  | survey
  | choices
  | settings
  deriving DecidableEq

/-- The word that the name of the worksheet contains. -/
def SheetKind.title : SheetKind → String
  | .survey => "survey"
  | .choices => "choices"
  | .settings => "settings"

end Questionnaire
