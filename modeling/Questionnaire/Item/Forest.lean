import Questionnaire.Item.Question

/-!
# Forests of items

The groups and questions of a survey form a forest: a list of items, in which every group is
followed by what it holds and by the items after it. Written out depth-first, a forest is a list
of events, in which an opening and a closing stand around what a group holds.

Results:

* `Forest.events_append`, `Forest.questions_append`: both views split where the forest does.
* `Forest.questions_eq`: the questions are those among the events.
-/

namespace Questionnaire

inductive Forest where
  | nil
  | group (group : Group) (inner rest : Forest)
  | question (question : Question) (rest : Forest)
  deriving DecidableEq

/-- What is met on a depth-first walk. -/
inductive Event where
  | opening (group : Group)
  | question (question : Question)
  | closing
  deriving DecidableEq

def Event.question? : Event → Option Question
  | .question q => some q
  | _ => none

/-- The age group of an item that is met. -/
def Event.ageGroup? : Event → Option AgeGroup
  | .opening g => g.ageGroup
  | .question q => q.ageGroup
  | .closing => none

namespace Forest

/-- The items of one forest, then those of the other. -/
def append : Forest → Forest → Forest
  | .nil, other => other
  | .group g inner rest, other => .group g inner (rest.append other)
  | .question q rest, other => .question q (rest.append other)

/-- The forest written out depth-first. -/
def events : Forest → List Event
  | .nil => []
  | .group g inner rest => .opening g :: (inner.events ++ .closing :: rest.events)
  | .question q rest => .question q :: rest.events

/-- The questions depth-first. -/
def questions : Forest → List Question
  | .nil => []
  | .group _ inner rest => inner.questions ++ rest.questions
  | .question q rest => q :: rest.questions

/-- The first question with the name. -/
def question? (items : Forest) (name : String) : Option Question :=
  items.questions.find? fun question => question.name = name

@[simp] theorem events_append (items other : Forest) :
    (items.append other).events = items.events ++ other.events := by
  induction items with
  | nil => rfl
  | group g inner rest _ ih => simp [append, events, ih]
  | question q rest ih => simp [append, events, ih]

@[simp] theorem questions_append (items other : Forest) :
    (items.append other).questions = items.questions ++ other.questions := by
  induction items with
  | nil => rfl
  | group g inner rest _ ih => simp [append, questions, ih]
  | question q rest ih => simp [append, questions, ih]

theorem questions_eq (items : Forest) :
    items.questions = items.events.filterMap Event.question? := by
  induction items with
  | nil => rfl
  | group g inner rest ihInner ihRest =>
    rw [questions, events, ihInner, ihRest, List.filterMap_cons_none rfl, List.filterMap_append,
      List.filterMap_cons_none rfl]
  | question q rest ih => rw [questions, events, ih]; rfl

end Forest

end Questionnaire
