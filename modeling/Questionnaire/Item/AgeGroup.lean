import Questionnaire.Text.Blank

/-!
# Age groups

A group or a question may be meant for certain ages. The text of an age group is read without
regard to blanks around it and to letter case.

Results:

* `AgeGroup.ofText?_text`: a written age group is read back.
-/

namespace Questionnaire

inductive AgeGroup where
  | neonates
  | children
  | adults
  | neonatesAndChildren
  | childrenAndAdults
  | everyone
  deriving DecidableEq

namespace AgeGroup

def all : List AgeGroup :=
  [.neonates, .children, .adults, .neonatesAndChildren, .childrenAndAdults, .everyone]

def text : AgeGroup → String
  | .neonates => "N"
  | .children => "C"
  | .adults => "A"
  | .neonatesAndChildren => "N_C"
  | .childrenAndAdults => "C_A"
  | .everyone => "ALL"

/-- The trimmed characters, the letters `a` to `z` made capital. -/
def capitals (cs : List Char) : List Char := (Text.trimList cs).map Char.toUpper

def ofText? (text : String) : Option AgeGroup :=
  all.find? fun ageGroup => ageGroup.text.toList = capitals text.toList

theorem ofText?_text (ageGroup : AgeGroup) : ofText? ageGroup.text = some ageGroup := by
  cases ageGroup <;> decide

end AgeGroup

end Questionnaire
