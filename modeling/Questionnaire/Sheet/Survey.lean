import Questionnaire.Header.Cluster
import Questionnaire.Sheet.Table

/-!
# The survey worksheet

Each content row opens a group, closes one or asks a question. The columns `type`, `name` and
`relevant` are required, all others optional.

Main definitions:

* `SurveyColumns.find`: where the columns are.
* `SurveyColumns.read`: a content row, column by column.
* `SurveySheet.ofWorksheet`: the whole worksheet.
-/

namespace Questionnaire

/-! ## Rows -/

structure SurveyRow where
  number : UInt32
  vacant : Bool
  typeText : Option String
  name : Option String
  label : Localized
  hint : Localized
  relevant : Option String
  required : Option String
  notes : Option String
  appearance : Option String
  calculation : Option String
  defaultValue : Option String
  constraint : Option String
  constraintMessage : Localized
  readOnly : Option String
  ageGroup : Option String
  choiceFilter : Option String
  deriving DecidableEq

/-- The row number as it is shown. -/
def SurveyRow.reference (row : SurveyRow) : String := Text.decimal row.number.toNat

/-! ## Columns -/

structure SurveyColumns where
  type : Nat
  name : Nat
  relevant : Nat
  label : Option Cluster
  hint : Option Cluster
  constraintMessage : Option Cluster
  required : Option Nat
  notes : Option Nat
  appearance : Option Nat
  calculation : Option Nat
  defaultValue : Option Nat
  constraint : Option Nat
  readOnly : Option Nat
  ageGroup : Option Nat
  choiceFilter : Option Nat

namespace SurveyColumns

def find (header : Header) : Except FormError SurveyColumns := do
  let type ← header.column "type"
  let name ← header.column "name"
  let relevant ← header.column "relevant"
  return {
    type := type
    name := name
    relevant := relevant
    label := header.cluster? "label"
    hint := header.cluster? "hint"
    constraintMessage := header.cluster? "constraint_message"
    required := header.anyColumn? ["required"]
    notes := header.anyColumn? ["notes"]
    appearance := header.anyColumn? ["appearance"]
    calculation := header.anyColumn? ["calculation"]
    defaultValue := header.anyColumn? ["default"]
    constraint := header.anyColumn? ["constraint"]
    readOnly := header.anyColumn? ["read_only"]
    ageGroup := header.anyColumn? ["agegroup", "age_group", "age group"]
    choiceFilter := header.anyColumn? ["choice_filter", "choice filter"] }

/-- The text of a row in a cluster that may be missing. -/
def localized (cluster : Option Cluster) (row : Row) : Localized :=
  match cluster with
  | some cluster => cluster.localized row
  | none => Localized.empty

def read (columns : SurveyColumns) (row : Row) : SurveyRow where
  number := row.number
  vacant := row.isVacant
  typeText := row.text columns.type
  name := row.text columns.name
  label := localized columns.label row
  hint := localized columns.hint row
  relevant := row.text columns.relevant
  required := columns.required.bind row.text
  notes := columns.notes.bind row.text
  appearance := columns.appearance.bind row.text
  calculation := columns.calculation.bind row.text
  defaultValue := columns.defaultValue.bind row.text
  constraint := columns.constraint.bind row.text
  constraintMessage := localized columns.constraintMessage row
  readOnly := columns.readOnly.bind row.text
  ageGroup := columns.ageGroup.bind row.text
  choiceFilter := columns.choiceFilter.bind row.text

end SurveyColumns

/-! ## The worksheet -/

structure SurveySheet where
  header : Header
  label : Option Cluster
  hint : Option Cluster
  rows : List SurveyRow
  deriving DecidableEq

def SurveySheet.ofWorksheet (worksheet : Worksheet) : Except FormError SurveySheet := do
  let table ← worksheet.table .survey
  let columns ← SurveyColumns.find table.header
  return {
    header := table.header
    label := columns.label
    hint := columns.hint
    rows := table.content.map columns.read }

end Questionnaire
