import Questionnaire.Language

/-!
# The languages of a form

The languages of a form are those of the survey labels, the survey hints and the choice labels.
They are told apart by label alone, and each label is represented by its first occurrence.

Main definitions:

* `LanguagesAvailable.compute`: all languages, and those of the questions, of the answers and of
  both.
* `LanguageSelection.select`: the languages that a selection names.
-/

namespace Questionnaire

structure LanguagesAvailable where
  all : List Language
  inCommon : List Language
  inGroupsAndQuestions : List Language
  inSelectionAnswers : List Language
  deriving DecidableEq

namespace LanguagesAvailable

/-- The first language of each label. -/
def firstOfLabel : List Language → List Language
  | [] => []
  | language :: rest =>
    language :: (firstOfLabel rest).filter fun other => other.label ≠ language.label

/-- A language occurs, by its label, in a list of languages. A missing list has none. -/
def occursIn (language : Language) (languages : Option (List Language)) : Bool :=
  (languages.getD []).any fun other => other.label = language.label

def compute (labels hints choices : Option (List Language)) : LanguagesAvailable :=
  let all := firstOfLabel (labels.getD [] ++ hints.getD [] ++ choices.getD [])
  { all := all
    inCommon := all.filter fun language => occursIn language labels && occursIn language choices
    inGroupsAndQuestions := all.filter fun language => occursIn language labels
    inSelectionAnswers := all.filter fun language => occursIn language choices }

/-- The language with the given label. -/
def withLabel? (languages : LanguagesAvailable) (label : String) : Option Language :=
  languages.all.find? fun language => language.label = label

theorem mem_firstOfLabel {language : Language} {languages : List Language}
    (h : language ∈ firstOfLabel languages) : language ∈ languages := by
  induction languages with
  | nil => exact h
  | cons first rest ih =>
    simp only [firstOfLabel, List.mem_cons, List.mem_filter] at h
    rcases h with h | h
    · exact List.mem_cons.2 (.inl h)
    · exact List.mem_cons.2 (.inr (ih h.1))

end LanguagesAvailable

/-! ## Selections -/

/-- The languages into which conditions are put. -/
inductive LanguageSelection where
  /-- Those of both the questions and the answers. -/
  | inCommon
  /-- Those of the questions. -/
  | groupsAndQuestions
  /-- Every language of the form. -/
  | all
  deriving DecidableEq

def LanguageSelection.select : LanguageSelection → LanguagesAvailable → List Language
  | .inCommon, languages => languages.inCommon
  | .groupsAndQuestions, languages => languages.inGroupsAndQuestions
  | .all, languages => languages.all

end Questionnaire
