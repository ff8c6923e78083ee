/-!
# Warnings

Faults of a form that do not keep it from being converted. A warning says what is wrong and
where: the row, the column with its cell, and the group or question concerned.

Main definitions:

* `Fault.description`: the two wordings of a fault, in the list of all warnings and beside the
  item.
* `Warnings`: the warnings of a form.
-/

namespace Questionnaire

/-- What is wrong. -/
inductive Fault where
  | groupNotEnded
  | groupNotStarted
  /-- A question needs a list, but there is no `choices` worksheet. -/
  | choicesMissing (question type : String)
  /-- A question needs a list that the `choices` worksheet does not have. -/
  | listMissing (question type list : String)
  | invalidType (item type : String)
  | invalidAgeGroup (item ageGroup : String)
  deriving DecidableEq

/-- The wordings of a fault. -/
structure Description where
  inList : String
  onItem : String
  deriving DecidableEq

/-- Two named texts in parentheses. -/
def namedPair (name value otherName otherValue : String) : String :=
  "(" ++ name ++ ": \"" ++ value ++ "\", " ++ otherName ++ ": \"" ++ otherValue ++ "\")"

def Fault.description : Fault → Description
  | .groupNotEnded =>
    { inList := "A question group in the worksheet \"survey\" was started, but was not ended."
      onItem := "This group was started, but was not ended." }
  | .groupNotStarted =>
    { inList := "A question group in the worksheet \"survey\" was ended, but was not started."
      onItem := "This group was ended, but was not started." }
  | .choicesMissing question type =>
    { inList := "A question " ++ namedPair "name" question "type" type
        ++ " in the worksheet \"survey\" refers to a list from worksheet \"choices\" which is"
        ++ " missing."
      onItem := "This question requires a list from the worksheet \"choices\", but the worksheet"
        ++ " \"choices\" is missing." }
  | .listMissing question type list =>
    { inList := "A question " ++ namedPair "name" question "type" type
        ++ " in the worksheet \"survey\" refers to a missing list (name: \"" ++ list
        ++ "\") from the worksheet \"choices\"."
      onItem := "This question requires a list from the worksheet \"choices\", but the list is"
        ++ " missing." }
  | .invalidType item type =>
    { inList := "Invalid or unsupported question type " ++ namedPair "name" item "type" type ++ "."
      onItem := "This question has an invalid or unsupported type." }
  | .invalidAgeGroup item ageGroup =>
    { inList := "Invalid age group " ++ namedPair "name" item "age group" ageGroup
        ++ ". Valid age groups are N, C, A, N_C, C_A and ALL."
      onItem := "This item has an invalid age group." }

structure Warning where
  fault : Fault
  row : Option String
  column : Option String := none
  cell : Option String := none
  itemId : Option String := none
  itemType : Option String := none
  deriving DecidableEq

namespace Warning

/-- Adds the column and the cell that are at fault. -/
def withCell (warning : Warning) (column : String) (cell : Option String) : Warning :=
  { warning with column := some column, cell := cell }

/-- Adds the group or question concerned. -/
def withItem (warning : Warning) (id type : Option String) : Warning :=
  { warning with itemId := id, itemType := type }

end Warning

/-- The warnings of a form: those about the structure of the survey, and those about single
items. -/
structure Warnings where
  general : List Warning
  specific : List Warning
  deriving DecidableEq

def Warnings.isEmpty (warnings : Warnings) : Bool :=
  warnings.general.isEmpty && warnings.specific.isEmpty

end Questionnaire
