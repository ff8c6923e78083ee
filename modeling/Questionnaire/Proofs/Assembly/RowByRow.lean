import Mathlib.Data.List.Basic
import Questionnaire.Proofs.Assembly.RowOrder

/-!
# Rows one by one

The shape of the forest depends on all rows, but the questions in it and the specific warnings do
not: a row asks the same question and gives rise to the same warnings wherever it stands, whatever
groups are open around it and whatever rows there are besides.

Results:

* `filterMap_assembleRows`: the items of a form are those of its rows, in sheet order.
* `questions_assembleRows`: the questions of a form are those of its rows, in sheet order.
* `specific_assembleRows`: the specific warnings are those of the rows, in sheet order.
* `assembleRows_append`: rows can be cut anywhere, and each warning is that of one row.
-/

namespace Questionnaire

/-! ## Items in sheet order -/

/-- The event that meets the item of an entry. An ending is no item. -/
def Entry.event? : Entry → Option Event
  | .opening g => some (.opening g)
  | .question q => some (.question q)
  | .ending _ => none

namespace Nesting

section

variable {α : Type} {f : Event → Option α} (hclosing : f .closing = none)

include hclosing

theorem filterMap_eventOf (depth : Nat) (entry : Entry) :
    (eventOf depth entry).filterMap f = (entry.event?.bind f).toList := by
  have hitem (event : Event) : [event].filterMap f = (f event).toList := by
    cases h : f event <;> simp [h]
  cases entry with
  | opening group => exact hitem _
  | question question => exact hitem _
  | ending groupEnd =>
    cases depth with
    | zero => rfl
    | succ depth =>
      show [Event.closing].filterMap f = []
      rw [hitem, hclosing]
      rfl

theorem filterMap_runEvents (depth : Nat) (entries : List Entry) :
    (runEvents depth entries).filterMap f = entries.filterMap fun entry => entry.event?.bind f := by
  induction entries generalizing depth with
  | nil => rfl
  | cons entry entries ih =>
    rw [runEvents, List.filterMap_append, ih, filterMap_eventOf hclosing, List.filterMap_cons]
    cases entry.event?.bind f <;> rfl

/-- What is collected from the items is what the entries hold of it, however they nest. -/
theorem filterMap_forest_ofEntries (entries : List Entry) :
    (ofEntries entries).forest.events.filterMap f =
      entries.filterMap fun entry => entry.event?.bind f := by
  have hclosings (n : Nat) : (List.replicate n Event.closing).filterMap f = [] :=
    List.filterMap_replicate_of_none hclosing
  rw [events_forest_ofEntries, List.filterMap_append, filterMap_runEvents hclosing, hclosings,
    List.append_nil]

end

end Nesting

namespace SurveyRow

/-- The row asks a question: it counts, and neither starts nor ends a group. -/
def asksQuestion (row : SurveyRow) : Bool := row.counts && !row.opensGroup && !row.endsGroup

/-- The row starts or ends a group. -/
def bracketsGroup (row : SurveyRow) : Bool := row.counts && (row.opensGroup || row.endsGroup)

/-- The row makes an item, a group or a question. -/
def makesItem (row : SurveyRow) : Bool := row.counts && !row.endsGroup

theorem event?_entry (choices : Option ChoicesSheet) (options : Options) (row : SurveyRow) :
    (row.entry choices options).event? =
      if row.endsGroup then none else some (row.event choices options) := by
  obtain ⟨ho, hn, he⟩ | ⟨ho, hn, he⟩ | ⟨ho, hn, he⟩ := row.entry_cases choices options
  · rw [he, hn, event, ho]; rfl
  · rw [he, hn]; rfl
  · rw [he, hn, event, ho, hn]; rfl

end SurveyRow

open SurveyRow

/-- What is collected from the items is what the rows hold of it, in sheet order. -/
theorem filterMap_assembleRows {α : Type} {f : Event → Option α} (hclosing : f .closing = none)
    (choices : Option ChoicesSheet) (options : Options) (rows : List SurveyRow) :
    (assembleRows choices options rows).items.events.filterMap f =
      (rows.filter makesItem).filterMap fun row => f (row.event choices options) := by
  have hitems : (assembleRows choices options rows).items =
      (Nesting.ofEntries ((readings choices options rows).map Reading.entry)).forest := rfl
  have hentry (row : SurveyRow) :
      (readingOf choices options row (row.typeText.getD "")).entry.event? =
        if row.endsGroup then none else some (row.event choices options) :=
    row.event?_entry choices options
  rw [hitems, Nesting.filterMap_forest_ofEntries hclosing, readings_eq, List.filterMap_map,
    List.filterMap_map, List.filterMap_filter, List.filterMap_filter]
  refine List.filterMap_congr fun row _ => ?_
  simp only [Function.comp_apply, hentry, makesItem]
  by_cases hcounts : row.counts = true <;> by_cases hends : row.endsGroup = true <;>
    simp [hcounts, hends]

theorem questions_assembleRows (choices : Option ChoicesSheet) (options : Options)
    (rows : List SurveyRow) : (assembleRows choices options rows).items.questions =
      (rows.filter asksQuestion).map (askedQuestion choices options) := by
  rw [Forest.questions_eq, filterMap_assembleRows rfl, List.filterMap_filter,
    ← List.filterMap_eq_map, List.filterMap_filter]
  refine List.filterMap_congr fun row _ => ?_
  simp only [makesItem, asksQuestion, event]
  by_cases hopens : row.opensGroup = true <;> by_cases hends : row.endsGroup = true <;>
    simp [hopens, hends, Event.question?]

/-! ## Warnings in sheet order -/

theorem specific_assembleRows (choices : Option ChoicesSheet) (options : Options)
    (rows : List SurveyRow) : (assembleRows choices options rows).warnings.specific =
      (rows.filter counts).flatMap fun row =>
        (readingOf choices options row (row.typeText.getD "")).warnings := by
  have hspecific : (assembleRows choices options rows).warnings.specific =
      (readings choices options rows).flatMap Reading.warnings := rfl
  rw [hspecific, readings_eq, List.flatMap_map]

namespace SurveyRow

/-- The specific warnings of a row that stands alone. -/
def ownWarnings (choices : Option ChoicesSheet) (options : Options) (row : SurveyRow) :
    List Warning := (assembleRows choices options [row]).warnings.specific

/-- The warning about an age group that is none, in a row that starts or ends a group. -/
def invalidAgeGroup? (row : SurveyRow) : Option Warning :=
  row.ageGroup.bind fun text =>
    if AgeGroup.ofText? text = none then
      some { fault := .invalidAgeGroup (row.name.getD "") text, row := some row.reference,
             column := some "agegroup", cell := some text,
             itemId := row.name, itemType := some row.spec.text }
    else none

theorem ownWarnings_eq (choices : Option ChoicesSheet) (options : Options) (row : SurveyRow) :
    row.ownWarnings choices options =
      if row.counts then (readingOf choices options row (row.typeText.getD "")).warnings
      else [] := by
  rw [ownWarnings, specific_assembleRows]
  cases h : row.counts <;> simp [h]

theorem readAgeGroup_warnings (row : SurveyRow) :
    (row.readAgeGroup row.spec.text).2 = row.invalidAgeGroup?.toList := by
  unfold readAgeGroup invalidAgeGroup?
  cases row.ageGroup with
  | none => rfl
  | some text => cases h : AgeGroup.ofText? text <;> simp [h]; rfl

/-- What a row is warned of on its own: a question of what it carries, a start or an end of a group
of its age group, and any other row of nothing. -/
theorem ownWarnings_cases (choices : Option ChoicesSheet) (options : Options) (row : SurveyRow) :
    (row.asksQuestion = true ∧ row.bracketsGroup = false ∧
      row.ownWarnings choices options = (row.askedQuestion choices options).warnings) ∨
    (row.asksQuestion = false ∧ row.bracketsGroup = true ∧
      row.ownWarnings choices options = row.invalidAgeGroup?.toList) ∨
    (row.asksQuestion = false ∧ row.bracketsGroup = false ∧
      row.ownWarnings choices options = []) := by
  rw [ownWarnings_eq, asksQuestion, bracketsGroup]
  cases row.counts with
  | false => exact .inr (.inr ⟨rfl, rfl, rfl⟩)
  | true =>
    obtain ⟨ho, hn, hr⟩ | ⟨ho, hn, hr⟩ | ⟨ho, hn, hr⟩ := row.reading_cases choices options
    · exact .inr (.inl ⟨by simp [ho], by simp [ho], by simp [hr, readAgeGroup_warnings]⟩)
    · exact .inr (.inl ⟨by simp [hn], by simp [hn], by simp [hr, readAgeGroup_warnings]⟩)
    · exact .inl ⟨by simp [ho, hn], by simp [ho, hn], by simp [hr]⟩

theorem ownWarnings_of_asksQuestion (choices : Option ChoicesSheet) (options : Options)
    {row : SurveyRow} (h : row.asksQuestion = true) :
    row.ownWarnings choices options = (row.askedQuestion choices options).warnings := by
  rcases row.ownWarnings_cases choices options with ⟨-, -, hown⟩ | ⟨hnot, -, -⟩ | ⟨hnot, -, -⟩
  · exact hown
  · rw [h] at hnot
    cases hnot
  · rw [h] at hnot
    cases hnot

end SurveyRow

theorem specific_eq_flatMap_ownWarnings (choices : Option ChoicesSheet) (options : Options)
    (rows : List SurveyRow) : (assembleRows choices options rows).warnings.specific =
      rows.flatMap (ownWarnings choices options) := by
  rw [specific_assembleRows]
  induction rows with
  | nil => rfl
  | cons row rows ih =>
    rw [List.flatMap_cons, ownWarnings_eq, ← ih, List.filter_cons]
    cases row.counts <;> rfl

/-- The warnings of the questions are those of the rows that ask them. -/
theorem warnings_askedQuestions (choices : Option ChoicesSheet) (options : Options)
    (rows : List SurveyRow) :
    ((rows.filter asksQuestion).map (askedQuestion choices options)).flatMap Question.warnings =
      (rows.filter asksQuestion).flatMap (ownWarnings choices options) := by
  rw [List.flatMap_map]
  refine List.flatMap_congr fun row hm => ?_
  exact (ownWarnings_of_asksQuestion choices options (List.mem_filter.1 hm).2).symm

/-- Rows that ask no question are warned of age groups only. -/
theorem ownWarnings_of_not_asksQuestion (choices : Option ChoicesSheet) (options : Options)
    (rows : List SurveyRow) :
    (rows.filter fun row => !row.asksQuestion).flatMap (ownWarnings choices options) =
      (rows.filter bracketsGroup).filterMap invalidAgeGroup? := by
  induction rows with
  | nil => rfl
  | cons row rows ih =>
    obtain ⟨ha, hb, h⟩ | ⟨ha, hb, h⟩ | ⟨ha, hb, h⟩ := row.ownWarnings_cases choices options
    · rw [List.filter_cons_of_neg (by simp [ha]), List.filter_cons_of_neg (by simp [hb]), ih]
    · rw [List.filter_cons_of_pos (by simp [ha]), List.filter_cons_of_pos hb, List.flatMap_cons, h,
        ih]
      cases hg : row.invalidAgeGroup? with
      | none => rw [List.filterMap_cons_none hg]; rfl
      | some warning => rw [List.filterMap_cons_some hg]; rfl
    · rw [List.filter_cons_of_pos (by simp [ha]), List.filter_cons_of_neg (by simp [hb]),
        List.flatMap_cons, h, ih]
      rfl

/-! ## Cutting rows -/

/-- Wherever rows are cut in two, the questions and the specific warnings are those of the first
part and then those of the second. Each specific warning is one that a row gives rise to on its
own: the questions carry those of the rows that ask them, and all others are about the age groups of
rows that start or end a group. -/
theorem assembleRows_append (choices : Option ChoicesSheet) (options : Options)
    (rows others : List SurveyRow) :
    (assembleRows choices options (rows ++ others)).warnings.specific =
        (assembleRows choices options rows).warnings.specific
          ++ (assembleRows choices options others).warnings.specific ∧
      (assembleRows choices options (rows ++ others)).items.questions =
        (assembleRows choices options rows).items.questions
          ++ (assembleRows choices options others).items.questions ∧
      (assembleRows choices options rows).warnings.specific =
        rows.flatMap (ownWarnings choices options) ∧
      (assembleRows choices options rows).items.questions.flatMap Question.warnings =
        (rows.filter asksQuestion).flatMap (ownWarnings choices options) ∧
      (rows.filter fun row => !row.asksQuestion).flatMap (ownWarnings choices options) =
        (rows.filter bracketsGroup).filterMap invalidAgeGroup? := by
  refine ⟨?_, ?_, ?_, ?_, ?_⟩
  · rw [specific_assembleRows, specific_assembleRows, specific_assembleRows, List.filter_append,
      List.flatMap_append]
  · rw [questions_assembleRows, questions_assembleRows, questions_assembleRows, List.filter_append,
      List.map_append]
  · exact specific_eq_flatMap_ownWarnings choices options rows
  · rw [questions_assembleRows, warnings_askedQuestions]
  · exact ownWarnings_of_not_asksQuestion choices options rows

end Questionnaire
