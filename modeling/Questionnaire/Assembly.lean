import Questionnaire.Assembly.Nesting
import Questionnaire.Form

/-!
# Assembling a survey

The rows of the survey worksheet are read one by one, and the entries nested into a forest of
items. The faults of the nesting are general warnings, those of the rows specific ones.

Main definitions:

* `Form.readings`: the meanings of the rows.
* `Form.assemble`: the items and the warnings of a form.
-/

namespace Questionnaire

/-- The items of a form, with the warnings met on the way. -/
structure Assembled where
  items : Forest
  warnings : Warnings
  deriving DecidableEq

/-- A group is ended that was never started. -/
def GroupEnd.warning (groupEnd : GroupEnd) : Warning :=
  let warning : Warning := { fault := .groupNotStarted, row := some groupEnd.row }
  warning.withItem groupEnd.name (some groupEnd.type)

/-- A group is still open after the last row. -/
def Group.warning (group : Group) (lastRow : Option String) : Warning :=
  let warning : Warning := { fault := .groupNotEnded, row := lastRow }
  warning.withItem group.name none

/-- The meanings of rows, in their order. -/
def readings (choices : Option ChoicesSheet) (options : Options) (rows : List SurveyRow) :
    List Reading :=
  rows.filterMap (SurveyRow.reading? choices options)

/-- The items that rows make up. -/
def assembleRows (choices : Option ChoicesSheet) (options : Options) (rows : List SurveyRow) :
    Assembled :=
  let readings := readings choices options rows
  let entries := readings.map Reading.entry
  let nesting := Nesting.ofEntries entries
  let lastRow := rows.getLast?.map SurveyRow.reference
  { items := nesting.forest
    warnings :=
      { general := (Nesting.strays 0 entries).map GroupEnd.warning
          ++ nesting.unended.map fun group => group.warning lastRow
        specific := readings.flatMap Reading.warnings } }

/-- The items of a form. -/
def Form.assemble (form : Form) (options : Options) : Assembled :=
  assembleRows form.choices options form.survey.rows

end Questionnaire
