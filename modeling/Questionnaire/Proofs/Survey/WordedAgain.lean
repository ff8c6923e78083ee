import Questionnaire.Proofs.Survey.ChangedOptions

/-!
# Conditions worded again

Putting the conditions of a survey into words reads the expressions of its items, and of the items
in which questions are looked up it reads everything but their conditions. So the words that are
there already do not count: items that are worded again stay as they are, also when questions are
looked up among these very items.

Main definitions:

* `Forest.bare`: the items with the expressions of their conditions, but without their words.
* `Condition.IsPhrased`: a condition has the words of its expression.

Results:

* `Relevance.phrase_mapConditions`: no condition counts for the words of an expression.
* `Forest.withConditions_bare`: neither do the words that the items have already.
* `Forest.withConditions_again`: items are worded once and for all.
-/

namespace Questionnaire

open Relevance

/-! ## Questions whose conditions are changed -/

namespace Forest

variable (f : Condition → Condition) (items : Forest)

theorem questions_mapConditions :
    (items.mapConditions f).questions = items.questions.map (Question.mapCondition f) := by
  unfold mapConditions
  induction items with
  | nil => rfl
  | group g inner rest ihInner ihRest =>
    rw [mapItems, questions, ihInner, ihRest, questions, List.map_append]
  | question q rest ih => rw [mapItems, questions, ih, questions, List.map_cons]

theorem question?_mapConditions (name : String) :
    (items.mapConditions f).question? name =
      (items.question? name).map (Question.mapCondition f) := by
  unfold question?
  rw [questions_mapConditions, List.find?_map]
  rfl

end Forest

namespace Relevance

variable (f : Condition → Condition) (items : Forest) (language : Language)
  (languages : List Language) (options : Options)

namespace Reader

theorem questionSegment_mapConditions (name : String) :
    questionSegment ⟨items.mapConditions f, language, options⟩ name =
      questionSegment ⟨items, language, options⟩ name := by
  unfold questionSegment
  rw [Forest.question?_mapConditions]
  cases items.question? name <;> rfl

theorem comparisonSegments_mapConditions (name : String) (operator : Comparison) (value : String) :
    comparisonSegments ⟨items.mapConditions f, language, options⟩ name operator value =
      comparisonSegments ⟨items, language, options⟩ name operator value := by
  unfold comparisonSegments
  rw [Forest.question?_mapConditions]
  cases items.question? name <;> rfl

end Reader

theorem readerSteps_mapConditions :
    readerSteps ⟨items.mapConditions f, language, options⟩ =
      readerSteps ⟨items, language, options⟩ := by
  unfold readerSteps
  rw [Reader.render_congr (Reader.questionSegment_mapConditions f items language options)
    (Reader.comparisonSegments_mapConditions f items language options)]

/-- The conditions of the items in which questions are looked up do not count for the words of an
expression. -/
theorem phrase_mapConditions :
    phrase (items.mapConditions f) languages options = phrase items languages options := by
  unfold phrase
  simp only [readerSteps_mapConditions]

end Relevance

/-! ## Conditions without their words -/

/-- The condition has the words of its expression and the steps that led there. Without an
expression it has neither. -/
structure Condition.IsPhrased (lookup : Forest) (languages : List Language) (options : Options)
    (condition : Condition) : Prop where
  text : condition.text =
    condition.source.map fun source => (Relevance.phrase lookup languages options source).text
  steps : condition.steps = (condition.source.map fun source =>
    (Relevance.phrase lookup languages options source).steps).getD []

theorem Condition.isPhrased_phrase (lookup : Forest) (languages : List Language)
    (options : Options) (condition : Condition) :
    (condition.phrase lookup languages options).IsPhrased lookup languages options := by
  obtain ⟨source, text, steps⟩ := condition
  cases source <;> exact ⟨rfl, rfl⟩

namespace Forest

/-- The items with the expressions of their conditions, but without their words. -/
def bare (items : Forest) : Forest := items.mapConditions .bare

variable (languages : List Language) (options : Options) (items lookup : Forest)

theorem bare_withConditions :
    (items.withConditions languages options lookup).bare = items.bare :=
  mapConditions_bare_withConditions languages options items lookup

/-- The words that are there already count neither in the items nor where questions are looked
up. -/
theorem withConditions_bare :
    items.bare.withConditions languages options lookup.bare =
      items.withConditions languages options lookup := by
  have hbare : (fun condition : Condition => condition.phrase lookup.bare languages options) ∘
      Condition.bare = fun condition => condition.phrase lookup languages options := by
    funext condition
    show (Condition.ofSource condition.source).phrase lookup.bare languages options = _
    unfold Condition.phrase bare
    rw [phrase_mapConditions]
    rfl
  rw [withConditions_eq, withConditions_eq]
  show (items.mapConditions .bare).mapConditions _ = _
  rw [mapConditions_mapConditions, hbare]

variable {items lookup} in
theorem withConditions_congr {others otherLookup : Forest} (hitems : others.bare = items.bare)
    (hlookup : otherLookup.bare = lookup.bare) :
    others.withConditions languages options otherLookup =
      items.withConditions languages options lookup := by
  rw [← withConditions_bare, hitems, hlookup, withConditions_bare]

theorem isPhrased_of_mem_withConditions :
    ∀ condition ∈ (items.withConditions languages options lookup).conditions,
      condition.IsPhrased lookup languages options := by
  rw [conditions_withConditions]
  intro condition hm
  obtain ⟨source, -, rfl⟩ := List.mem_map.1 hm
  exact source.isPhrased_phrase lookup languages options

/-- Wording the conditions changes nothing else of the items: each condition gets the words of its
expression, which depend on the items and on those in which questions are looked up only without
their words. So items that are worded, and looked up in worded items, stay as they are; in
particular those that are looked up in themselves. -/
theorem withConditions_again :
    let worded := items.withConditions languages options lookup
    let whole := items.withConditions languages options items
    worded.bare = items.bare ∧
      (∀ condition ∈ worded.conditions, condition.IsPhrased lookup languages options) ∧
      (∀ others otherLookup : Forest, others.bare = items.bare → otherLookup.bare = lookup.bare →
        others.withConditions languages options otherLookup = worded) ∧
      worded.withConditions languages options (lookup.withConditions languages options lookup) =
        worded ∧
      whole.withConditions languages options whole = whole := by
  intro worded whole
  have hagain (items lookup : Forest) :
      (items.withConditions languages options lookup).withConditions languages options
          (lookup.withConditions languages options lookup) =
        items.withConditions languages options lookup :=
    withConditions_congr languages options (bare_withConditions languages options items lookup)
      (bare_withConditions languages options lookup lookup)
  exact ⟨bare_withConditions languages options items lookup,
    isPhrased_of_mem_withConditions languages options items lookup,
    fun others otherLookup => withConditions_congr languages options, hagain items lookup,
    hagain items items⟩

end Forest

end Questionnaire
