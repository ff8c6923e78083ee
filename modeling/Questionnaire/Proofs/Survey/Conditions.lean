import Questionnaire.Proofs.Assembly.RowByRow
import Questionnaire.Survey

/-!
# Conditions of items

Every group and question of a survey has a condition, made from the expression in the row of the
item. Putting the conditions into words keeps the expressions.

Results:

* `source_phrase`, `text_phrase`: the expression and the text of a condition in words.
* `events_withConditions`: nothing but the conditions of the items changes.
* `sources_ofForm`: the expressions of the items are those of their rows, in sheet order.
-/

namespace Questionnaire

open Relevance

/-! ## In words -/

theorem source_phrase (condition : Condition) (lookup : Forest) (languages : List Language)
    (options : Options) :
    (condition.phrase lookup languages options).source = condition.source := by
  obtain ⟨source, text, steps⟩ := condition
  cases source <;> rfl

/-- A condition in words is the phrasing of its expression. -/
theorem text_phrase {condition : Condition} {source : String} (h : condition.source = some source)
    (lookup : Forest) (languages : List Language) (options : Options) :
    (condition.phrase lookup languages options).text =
      some (phrase lookup languages options source).text := by
  unfold Condition.phrase
  rw [h]

/-! ## Items -/

/-- The event with the condition of its item in words. -/
def Event.phrase (lookup : Forest) (languages : List Language) (options : Options) : Event → Event
  | .opening g => .opening { g with condition := g.condition.phrase lookup languages options }
  | .question q => .question { q with condition := q.condition.phrase lookup languages options }
  | .closing => .closing

theorem events_withConditions (languages : List Language) (options : Options)
    (items lookup : Forest) : (items.withConditions languages options lookup).events =
      items.events.map (Event.phrase lookup languages options) := by
  induction items with
  | nil => rfl
  | group g inner rest ihInner ihRest =>
    simp only [Forest.withConditions, Forest.events, ihInner, ihRest, List.map_cons,
      List.map_append, Event.phrase]
  | question q rest ih =>
    simp only [Forest.withConditions, Forest.events, ih, List.map_cons, Event.phrase]

/-- The groups and questions of a survey are those of the assembled form, with their conditions put
into words. -/
theorem events_ofForm (form : Form) (options : Options) :
    (Survey.ofForm form options).items.events = (form.assemble options).items.events.map
      (Event.phrase (form.assemble options).items (options.languages.select form.languages)
        options) :=
  events_withConditions _ _ _ _

/-- The condition of an item that is met. -/
def Event.condition? : Event → Option Condition
  | .opening g => some g.condition
  | .question q => some q.condition
  | .closing => none

/-- The conditions of the groups and questions depth-first. -/
def Forest.conditions (items : Forest) : List Condition := items.events.filterMap Event.condition?

theorem conditions_withConditions (languages : List Language) (options : Options)
    (items lookup : Forest) : (items.withConditions languages options lookup).conditions =
      items.conditions.map fun condition => condition.phrase lookup languages options := by
  unfold Forest.conditions
  rw [events_withConditions, List.filterMap_map, List.map_filterMap]
  congr 1
  funext event
  cases event <;> rfl

/-- The conditions of a survey are those of the assembled form, put into words. -/
theorem conditions_ofForm (form : Form) (options : Options) :
    (Survey.ofForm form options).items.conditions =
      (form.assemble options).items.conditions.map fun condition =>
        condition.phrase (form.assemble options).items (options.languages.select form.languages)
          options :=
  conditions_withConditions _ _ _ _

/-! ## Rows -/

/-- The condition of an item is the expression in the row that makes it. -/
theorem conditions_assembleRows (choices : Option ChoicesSheet) (options : Options)
    (rows : List SurveyRow) : (assembleRows choices options rows).items.conditions =
      (rows.filter SurveyRow.makesItem).map fun row => .ofSource row.relevant := by
  rw [Forest.conditions, filterMap_assembleRows rfl, ← List.filterMap_eq_map]
  refine List.filterMap_congr fun row hm => ?_
  have hmakes := (List.mem_filter.1 hm).2
  simp only [SurveyRow.makesItem, Bool.and_eq_true, Bool.not_eq_true'] at hmakes
  rw [SurveyRow.event, hmakes.2]
  by_cases hopens : row.opensGroup = true <;> simp [hopens] <;> rfl

theorem sources_ofForm (form : Form) (options : Options) :
    (Survey.ofForm form options).items.conditions.map Condition.source =
      (form.survey.rows.filter SurveyRow.makesItem).map SurveyRow.relevant := by
  rw [conditions_ofForm, Form.assemble, conditions_assembleRows, List.map_map, List.map_map]
  exact List.map_congr_left fun row _ => source_phrase (.ofSource row.relevant) _ _ _

end Questionnaire
