import Questionnaire.Form.Error

/-!
# What keeps a conversion from being done

Each error names its cause; the wording is that of `ConversionError.message`.
-/

namespace Questionnaire

inductive ConversionError where
  /-- A file can not be read. -/
  | unreadable (path : String)
  /-- A file can not be written. -/
  | unwritable (path : String)
  /-- A file is no spreadsheet that can be opened. -/
  | unopened (path : String)
  /-- A file is not the JSON document that is asked for. -/
  | malformed (path : String)
  /-- The form has a fault. -/
  | unconvertible (name : String) (cause : FormError)
  | inputMissing
  | inputKindUnknown (text : String)
  | selectionUnknown (text : String)
  /-- The survey is not the one that it is compared with. -/
  | referenceDiffers
  deriving DecidableEq

def ConversionError.message : ConversionError → String
  | .unreadable path => "Error reading file " ++ path
  | .unwritable path => "Error writing file " ++ path
  | .unopened path => "Error opening spreadsheet " ++ path
  | .malformed path => "Error parsing JSON file " ++ path
  | .unconvertible name cause =>
    "The form " ++ name ++ " could not be converted: " ++ cause.message
  | .inputMissing => "No input file was provided"
  | .inputKindUnknown text => "Unknown input type " ++ text
  | .selectionUnknown text => "Unknown language selection " ++ text
  | .referenceDiffers => "Difference detected between converted survey and reference survey"

end Questionnaire
