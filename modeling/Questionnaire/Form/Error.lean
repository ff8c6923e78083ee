import Questionnaire.Sheet.Kind
import Questionnaire.Text.Search

/-!
# What keeps a form from being read

Each error names its cause; the wording is that of `FormError.message`.
-/

namespace Questionnaire

inductive FormError where
  /-- The worksheet is missing. -/
  | worksheetMissing (sheet : SheetKind)
  /-- The `survey` worksheet is missing, and others with it. -/
  | worksheetsMissing (sheets : List SheetKind)
  /-- Every row of the worksheet is vacant. -/
  | worksheetBlank (sheet : SheetKind)
  /-- The worksheet has no header row. -/
  | headerMissing (sheet : SheetKind)
  /-- The worksheet has a header row only. -/
  | contentMissing (sheet : SheetKind)
  /-- No column has the title. -/
  | columnMissing (title : String) (sheet : SheetKind)
  /-- No column has any of the titles. -/
  | synonymsMissing (titles : List String) (sheet : SheetKind)
  /-- No column has the title, alone or with a language. -/
  | clusterMissing (stem : String) (sheet : SheetKind)
  deriving DecidableEq

/-- The texts in quotes, with commas between them. -/
def quotedList (texts : List String) : String :=
  Text.joinWith ", " (texts.map fun text => "\"" ++ text ++ "\"")

def FormError.message : FormError → String
  | .worksheetMissing sheet => "The \"" ++ sheet.title ++ "\" worksheet is missing."
  | .worksheetsMissing sheets =>
    "Multiple worksheets are missing: " ++ quotedList (sheets.map SheetKind.title)
      ++ ". The \"survey\" sheet is required, the \"choices\" and \"settings\" sheets are optional."
  | .worksheetBlank sheet => "The \"" ++ sheet.title ++ "\" worksheet is blank."
  | .headerMissing sheet => "The \"" ++ sheet.title ++ "\" worksheet's header row is missing."
  | .contentMissing sheet => "The \"" ++ sheet.title ++ "\" worksheet's content rows are missing."
  | .columnMissing title sheet =>
    "Can not find column in worksheet \"" ++ sheet.title ++ "\" with header title \"" ++ title
      ++ "\"."
  | .synonymsMissing titles sheet =>
    "Can not find column in worksheet \"" ++ sheet.title ++ "\" with header title \""
      ++ titles.headD "" ++ "\" or with one of its synonyms (" ++ quotedList titles.tail ++ ")."
  | .clusterMissing stem sheet =>
    "Can not find columns in worksheet \"" ++ sheet.title ++ "\" with header title either being \""
      ++ stem ++ "\" or starting with \"" ++ stem ++ "::\"."

end Questionnaire
