import Questionnaire.Header.Cluster
import Questionnaire.Sheet.Table

/-!
# The choices worksheet

Each content row is a choice of a list. Besides the list name, the name and the label, every
titled column may filter the choices.

Main definitions:

* `ChoicesColumns.find`, `ChoicesColumns.read`: the columns, and a row read through them.
* `ChoicesSheet.list`: the choices of a list.
-/

namespace Questionnaire

/-- A value that a choice has in a further column. -/
structure ChoiceFilter where
  name : String
  value : String
  deriving DecidableEq

structure ChoiceRow where
  number : UInt32
  list : Option String
  name : Option String
  label : Localized
  filters : List ChoiceFilter
  deriving DecidableEq

/-! ## Columns -/

structure ChoicesColumns where
  list : Nat
  name : Nat
  label : Cluster
  filters : List (Nat × String)

namespace ChoicesColumns

/-- The titled columns that are neither of the two names nor part of the label. -/
def filterColumns (header : Header) (list name : Nat) (label : Cluster) : List (Nat × String) :=
  header.titled.filter fun (column, _) =>
    column ≠ list && column ≠ name && !label.hasColumn column

def find (header : Header) : Except FormError ChoicesColumns := do
  let list ← header.anyColumn ["list_name", "list name"]
  let name ← header.column "name"
  let label ← header.cluster "label"
  return {
    list := list
    name := name
    label := label
    filters := filterColumns header list name label }

def read (columns : ChoicesColumns) (row : Row) : ChoiceRow where
  number := row.number
  list := row.text columns.list
  name := row.text columns.name
  label := columns.label.localized row
  filters := columns.filters.filterMap fun (column, title) =>
    (row.text column).map fun value => ⟨title, value⟩

end ChoicesColumns

/-! ## The worksheet -/

structure ChoicesSheet where
  header : Header
  label : Cluster
  rows : List ChoiceRow
  deriving DecidableEq

def ChoicesSheet.ofWorksheet (worksheet : Worksheet) : Except FormError ChoicesSheet := do
  let table ← worksheet.table .choices
  let columns ← ChoicesColumns.find table.header
  return {
    header := table.header
    label := columns.label
    rows := table.content.map columns.read }

/-- The choices of a list, in sheet order. -/
def ChoicesSheet.list (sheet : ChoicesSheet) (name : String) : List ChoiceRow :=
  sheet.rows.filter fun row => row.list = some name

end Questionnaire
