import Questionnaire.Item.AgeGroup
import Questionnaire.Language.Localized
import Questionnaire.QuestionType.Specification
import Questionnaire.Sheet.Choices
import Questionnaire.Warning

/-!
# Questions and groups

What the rows of the survey worksheet become: questions with all they carry, and the groups that
hold them.

Main definitions:

* `Question`, `Answer`, `Details`: a question with its answers and further columns.
* `Group`: a group, without what it holds.
* `Condition`: when a group or question is relevant.
-/

namespace Questionnaire

/-- When an item is relevant: the expression of its row, and that expression put into words with
the steps that led there. -/
structure Condition where
  source : Option String
  text : Option Localized
  steps : List Localized
  deriving DecidableEq

/-- A condition that is still only an expression. -/
def Condition.ofSource (source : Option String) : Condition := ⟨source, none, []⟩

/-! ## Groups -/

inductive GroupKind where
  | basic
  /-- Asked several times over. -/
  | repeated
  deriving DecidableEq

structure Group where
  kind : GroupKind
  name : Option String
  label : Localized
  ageGroup : Option AgeGroup
  condition : Condition
  deriving DecidableEq

/-! ## Questions -/

/-- A choice among the answers of a question. -/
structure Answer where
  id : String
  label : Localized
  filters : List ChoiceFilter
  deriving DecidableEq

/-- The columns that are passed on as they are. -/
structure Details where
  required : Option String
  notes : Option String
  appearance : Option String
  calculation : Option String
  defaultValue : Option String
  constraint : Option String
  constraintMessage : Localized
  readOnly : Option String
  deriving DecidableEq

structure Question where
  type : TypeSpec
  /-- The cell of the `type` column. -/
  typeText : String
  name : String
  /-- The label as it is shown. -/
  label : Localized
  /-- The label as it stands in the form. -/
  labelFull : Localized
  hint : Localized
  ageGroup : Option AgeGroup
  answers : List Answer
  condition : Condition
  choiceFilter : Option String
  details : Details
  warnings : List Warning
  deriving DecidableEq

namespace Question

/-- The first answer with the identifier. -/
def answer? (question : Question) (id : String) : Option Answer :=
  question.answers.find? fun answer => answer.id = id

def hasChoiceFilters (question : Question) : Bool :=
  question.answers.any fun answer => !answer.filters.isEmpty

end Question

end Questionnaire
