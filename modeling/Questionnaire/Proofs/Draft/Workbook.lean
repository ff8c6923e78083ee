import Questionnaire.Item.Forest
import Questionnaire.Proofs.Text.Tidy

/-!
# Drafts of forms

A draft is a form as its author has it in mind: groups and questions with their names, labels and
conditions, and the lists of choices that the questions refer to. It is written into a workbook
row by row. A group has a row that begins it and a row that ends it, with the rows of what it holds
in between.

Main definitions:

* `Outline`, `Draft`: groups and questions as they are drafted, and the whole form.
* `Forest.outline`: what the items of a form were drafted as.
* `Draft.workbook`: the draft written into worksheets.
* `Draft.WellFormed`: the drafts that cells can hold.
-/

namespace Questionnaire

/-! ## Outlines -/

structure GroupOutline where
  kind : GroupKind
  name : Option String
  label : Localized
  relevant : Option String
  deriving DecidableEq

structure QuestionOutline where
  type : TypeSpec
  name : String
  label : Localized
  relevant : Option String
  deriving DecidableEq

/-- Groups and questions in their order, each group with what it holds. -/
inductive Outline where
  | nil
  | group (group : GroupOutline) (inner rest : Outline)
  | question (question : QuestionOutline) (rest : Outline)
  deriving DecidableEq

def Group.outline (group : Group) : GroupOutline where
  kind := group.kind
  name := group.name
  label := group.label
  relevant := group.condition.source

def Question.outline (question : Question) : QuestionOutline where
  type := question.type
  name := question.name
  label := question.labelFull
  relevant := question.condition.source

def Forest.outline : Forest → Outline
  | .nil => .nil
  | .group g inner rest => .group g.outline inner.outline rest.outline
  | .question q rest => .question q.outline rest.outline

/-- The lists of choices that questions refer to. -/
def Outline.lists : Outline → List String
  | .nil => []
  | .group _ inner rest => inner.lists ++ rest.lists
  | .question q rest => q.type.list?.toList ++ rest.lists

/-- A choice of a list. -/
structure ChoiceOutline where
  list : String
  name : String
  label : Localized
  deriving DecidableEq

structure Draft where
  languages : List String
  items : Outline
  choiceLanguages : List String
  choices : List ChoiceOutline
  deriving DecidableEq

def ChoiceOutline.answer (choice : ChoiceOutline) : Answer := ⟨choice.name, choice.label, []⟩

/-- The answers to a question of the type: the choices of its list in their order. -/
def Draft.answers (draft : Draft) (type : TypeSpec) : List Answer :=
  if type.type.requiresAnswers then
    (draft.choices.filter fun choice => some choice.list = type.list?).map ChoiceOutline.answer
  else []

/-! ## Writing -/

/-- The title of a label column. -/
def labelTitle (language : String) : String := "label::" ++ language

/-- The cells of a label, one for each language. -/
def Localized.cells (label : Localized) : List String :=
  label.entries.map fun entry => written entry.2

/-- A label without a text in any of the languages. -/
def Localized.blank (languages : List String) : Localized :=
  ⟨languages.map fun language => (Language.ofLabel language, none)⟩

/-- What a row of the survey worksheet says. -/
structure Line where
  type : String
  name : Option String
  relevant : Option String
  label : Localized
  deriving DecidableEq

def Line.cells (line : Line) : List String :=
  line.type :: written line.name :: written line.relevant :: line.label.cells

def GroupKind.beginning : GroupKind → QuestionType
  | .basic => .beginGroup
  | .repeated => .beginRepeat

def GroupKind.ending : GroupKind → QuestionType
  | .basic => .endGroup
  | .repeated => .endRepeat

def GroupOutline.beginLine (group : GroupOutline) : Line :=
  ⟨group.kind.beginning.key, group.name, group.relevant, group.label⟩

def GroupKind.endLine (kind : GroupKind) (languages : List String) : Line :=
  ⟨kind.ending.key, none, none, .blank languages⟩

def QuestionOutline.line (question : QuestionOutline) : Line :=
  ⟨question.type.text, some question.name, question.relevant, question.label⟩

def Outline.lines (languages : List String) : Outline → List Line
  | .nil => []
  | .group g inner rest =>
    g.beginLine :: (inner.lines languages ++ g.kind.endLine languages :: rest.lines languages)
  | .question q rest => q.line :: rest.lines languages

def ChoiceOutline.cells (choice : ChoiceOutline) : List String :=
  choice.list :: choice.name :: choice.label.cells

namespace Draft

def surveyTitles (draft : Draft) : List String :=
  ["type", "name", "relevant"] ++ draft.languages.map labelTitle

def choicesTitles (draft : Draft) : List String :=
  ["list_name", "name"] ++ draft.choiceLanguages.map labelTitle

def surveyWorksheet (draft : Draft) : Worksheet :=
  .ofTexts "survey" (draft.surveyTitles :: (draft.items.lines draft.languages).map Line.cells)

def choicesWorksheet (draft : Draft) : Worksheet :=
  .ofTexts "choices" (draft.choicesTitles :: draft.choices.map ChoiceOutline.cells)

/-- The worksheets of the draft. There is none of choices if no list is needed. -/
def workbook (draft : Draft) : Workbook :=
  ⟨draft.surveyWorksheet :: if draft.items.lists = [] then [] else [draft.choicesWorksheet]⟩

end Draft

/-! ## Well-formedness -/

/-- Languages that columns can be told apart by. -/
structure AreLanguages (languages : List String) : Prop where
  nodup : languages.Nodup
  tidy : ∀ language ∈ languages, Text.Tidy language
  startsWithLetter : ∀ language ∈ languages, Text.startsWithLetter language.toList = true

/-- Every text that is present is tidy. -/
def TidyIfPresent (text : Option String) : Prop := ∀ s, text = some s → Text.Tidy s

instance (text : Option String) : Decidable (TidyIfPresent text) :=
  match text with
  | none => isTrue nofun
  | some s =>
    decidable_of_iff (Text.Tidy s) ⟨fun h _ heq => Option.some.inj heq ▸ h, fun h => h s rfl⟩

/-- The label has an entry for each of the languages, with a tidy text or none. -/
structure Localized.WrittenIn (label : Localized) (languages : List String) : Prop where
  languages : label.entries.map Prod.fst = languages.map Language.ofLabel
  tidy : ∀ entry ∈ label.entries, TidyIfPresent entry.2

structure GroupOutline.WellFormed (group : GroupOutline) (languages : List String) : Prop where
  name : TidyIfPresent group.name
  relevant : TidyIfPresent group.relevant
  label : group.label.WrittenIn languages

/-- The list or the file that is named. -/
def TypeOptions.name : TypeOptions → String
  | .selection list _ => list
  | .ranking list => list
  | .file name => name

/-- A type that a cell can name, of a question, with no blank in the name of a list or file. -/
structure TypeSpec.WellFormed (type : TypeSpec) : Prop where
  parsed : ∃ text, TypeSpec.parse text = .ok type
  ne_unknown : type.type ≠ .unknown
  not_grouping : type.type.isGrouping = false
  not_isBlank : ∀ options, type.options = some options →
    ∀ c ∈ options.name.toList, Text.isBlank c = false

structure QuestionOutline.WellFormed (question : QuestionOutline) (languages : List String) :
    Prop where
  type : question.type.WellFormed
  name : Text.Tidy question.name
  relevant : TidyIfPresent question.relevant
  label : question.label.WrittenIn languages

def Outline.WellFormed (languages : List String) : Outline → Prop
  | .nil => True
  | .group g inner rest =>
    g.WellFormed languages ∧ inner.WellFormed languages ∧ rest.WellFormed languages
  | .question q rest => q.WellFormed languages ∧ rest.WellFormed languages

structure ChoiceOutline.WellFormed (choice : ChoiceOutline) (languages : List String) : Prop where
  list : Text.Tidy choice.list
  name : Text.Tidy choice.name
  label : choice.label.WrittenIn languages

/-- There are items, the texts are as cells hold them, and no list that a question refers to is
empty. -/
structure Draft.WellFormed (draft : Draft) : Prop where
  languages : AreLanguages draft.languages
  items_ne_nil : draft.items ≠ .nil
  items : draft.items.WellFormed draft.languages
  choiceLanguages : AreLanguages draft.choiceLanguages
  choiceLanguages_ne_nil : draft.items.lists ≠ [] → draft.choiceLanguages ≠ []
  choices : ∀ choice ∈ draft.choices, choice.WellFormed draft.choiceLanguages
  lists : ∀ list ∈ draft.items.lists, ∃ choice ∈ draft.choices, choice.list = list

end Questionnaire
