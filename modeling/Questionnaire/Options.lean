import Questionnaire.Language.Available

/-!
# Conversion options
-/

namespace Questionnaire

/-- How a form is converted. -/
structure Options where
  /-- The languages into which conditions are put. -/
  languages : LanguageSelection := .inCommon
  /-- Line breaks in question labels become markup. -/
  lineBreaksAsMarkup : Bool := true
  /-- A calculation whose name starts with `is` is true or false. -/
  calculationsAsBoolean : Bool := true
  /-- Every step of a condition is logged. -/
  debug : Bool := false
  deriving DecidableEq

end Questionnaire
