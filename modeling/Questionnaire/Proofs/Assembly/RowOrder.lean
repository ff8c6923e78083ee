import Questionnaire.Proofs.Assembly.OpenGroups

/-!
# Rows in their places

The items of a form, written out depth-first, are the rows of the survey worksheet in sheet order:
an opening for every row that opens a group, a closing for every row that ends one, a question for
every other row. Rows that do not count leave nothing, and neither does an ending that meets no
open group; groups still open after the last row are closed there.

Results:

* `readings_eq`: the readings are those of the rows that count.
* `events_assemble`: the walk over the items of a form is the run of its rows.
-/

namespace Questionnaire

namespace SurveyRow

/-! ## What a row says -/

/-- The row is not vacant, and its type cell is filled. -/
def counts (row : SurveyRow) : Bool := !row.vacant && row.typeText.isSome

/-- The type that the row names; the unknown type if its cell names none. -/
def spec (row : SurveyRow) : TypeSpec :=
  match TypeSpec.parse (row.typeText.getD "") with
  | .ok spec => spec
  | .error _ => TypeSpec.unknown

/-- The row starts a group or a repeated group. -/
def opensGroup (row : SurveyRow) : Bool :=
  row.spec.type = .beginGroup || row.spec.type = .beginRepeat

/-- The row ends a group or a repeated group. -/
def endsGroup (row : SurveyRow) : Bool :=
  row.spec.type = .endGroup || row.spec.type = .endRepeat

/-- The group that the row starts, with its own name, label, age group and expression. -/
def openedGroup (row : SurveyRow) : Group where
  kind := if row.spec.type = .beginRepeat then .repeated else .basic
  name := row.name
  label := row.label
  ageGroup := row.ageGroup.bind AgeGroup.ofText?
  condition := { source := row.relevant, text := none, steps := [] }

/-- The question that the row asks, with all its cells, its answers and its own warnings. -/
def askedQuestion (choices : Option ChoicesSheet) (options : Options) (row : SurveyRow) :
    Question :=
  let typeText := row.typeText.getD ""
  let shown := shownType row.spec typeText
  let answered := row.readAnswers choices row.spec shown
  { type := row.spec
    typeText := typeText
    name := row.name.getD ""
    label := row.shownLabel options
    labelFull := row.label
    hint := row.hint
    ageGroup := row.ageGroup.bind AgeGroup.ofText?
    answers := answered.1
    condition := { source := row.relevant, text := none, steps := [] }
    choiceFilter := row.choiceFilter
    details := row.details
    warnings := (row.readType typeText).2 ++ (row.readAgeGroup shown).2 ++ answered.2 }

/-- The end of a group that the row words: its number, its name and its type by the key. -/
def groupEnd (row : SurveyRow) : GroupEnd := ⟨row.reference, row.name, row.spec.text⟩

/-- The event of a row in the walk. -/
def event (choices : Option ChoicesSheet) (options : Options) (row : SurveyRow) : Event :=
  if row.opensGroup then .opening row.openedGroup
  else if row.endsGroup then .closing
  else .question (row.askedQuestion choices options)

/-- The number of open groups behind the row, when `depth` are open in front of it. -/
def depthBehind (depth : Nat) (row : SurveyRow) : Nat :=
  if row.opensGroup then depth + 1 else if row.endsGroup then depth - 1 else depth

/-- The number of groups still open after the rows. -/
def stillOpen (rows : List SurveyRow) : Nat := rows.foldl depthBehind 0

/-- The rows without the endings that meet no open group, when `depth` groups are open in front of
them. -/
def withoutStrays : Nat → List SurveyRow → List SurveyRow
  | _, [] => []
  | depth, row :: rows =>
    if row.endsGroup ∧ depth = 0 then withoutStrays depth rows
    else row :: withoutStrays (row.depthBehind depth) rows

/-- No row does both. -/
theorem opensGroup_eq_false_of_endsGroup {row : SurveyRow} (h : row.endsGroup = true) :
    row.opensGroup = false := by
  simp only [endsGroup, Bool.or_eq_true, decide_eq_true_eq] at h
  rcases h with h | h <;> simp [opensGroup, h]

theorem endsGroup_eq_false_of_opensGroup {row : SurveyRow} (h : row.opensGroup = true) :
    row.endsGroup = false := by
  refine Bool.eq_false_iff.2 fun hend => ?_
  rw [opensGroup_eq_false_of_endsGroup hend] at h
  cases h

/-! ## Reading a row -/

theorem readType_spec (row : SurveyRow) : (row.readType (row.typeText.getD "")).1 = row.spec := by
  unfold readType spec
  cases TypeSpec.parse (row.typeText.getD "") <;> rfl

theorem readAgeGroup_ageGroup (row : SurveyRow) (shown : String) :
    (row.readAgeGroup shown).1 = row.ageGroup.bind AgeGroup.ofText? := by
  unfold readAgeGroup
  cases row.ageGroup with
  | none => rfl
  | some text =>
    simp only [Option.bind_some]
    cases AgeGroup.ofText? text <;> rfl

/-- A type that is known was named without a fault. -/
theorem readType_warnings {row : SurveyRow} (h : row.spec.type ≠ .unknown) :
    (row.readType (row.typeText.getD "")).2 = [] := by
  unfold spec at h
  unfold readType
  cases hparse : TypeSpec.parse (row.typeText.getD "") with
  | ok spec => rfl
  | error fault => rw [hparse] at h; exact absurd rfl h

/-- What a row means and which warnings it gives rise to, by the type that it names. -/
theorem reading_cases (choices : Option ChoicesSheet) (options : Options) (row : SurveyRow) :
    (row.opensGroup = true ∧ row.endsGroup = false ∧
      readingOf choices options row (row.typeText.getD "") =
        ⟨.opening row.openedGroup, (row.readAgeGroup row.spec.text).2⟩) ∨
    (row.opensGroup = false ∧ row.endsGroup = true ∧
      readingOf choices options row (row.typeText.getD "") =
        ⟨.ending row.groupEnd, (row.readAgeGroup row.spec.text).2⟩) ∨
    (row.opensGroup = false ∧ row.endsGroup = false ∧
      readingOf choices options row (row.typeText.getD "") =
        ⟨.question (row.askedQuestion choices options),
          (row.askedQuestion choices options).warnings⟩) := by
  have hshown (h : row.spec.type ≠ .unknown) :
      shownType row.spec (row.typeText.getD "") = row.spec.text := if_neg h
  unfold readingOf
  simp only [readType_spec, readAgeGroup_ageGroup]
  split
  · rename_i h
    have hknown : row.spec.type ≠ .unknown := by simp [h]
    refine .inl ⟨by simp [opensGroup, h], by simp [endsGroup, h], ?_⟩
    simp [readType_warnings hknown, hshown hknown, openedGroup, group, Condition.ofSource, h]
  · rename_i h
    have hknown : row.spec.type ≠ .unknown := by simp [h]
    refine .inl ⟨by simp [opensGroup, h], by simp [endsGroup, h], ?_⟩
    simp [readType_warnings hknown, hshown hknown, openedGroup, group, Condition.ofSource, h]
  · rename_i h
    have hknown : row.spec.type ≠ .unknown := by simp [h]
    refine .inr (.inl ⟨by simp [opensGroup, h], by simp [endsGroup, h], ?_⟩)
    simp [readType_warnings hknown, hshown hknown, groupEnd]
  · rename_i h
    have hknown : row.spec.type ≠ .unknown := by simp [h]
    refine .inr (.inl ⟨by simp [opensGroup, h], by simp [endsGroup, h], ?_⟩)
    simp [readType_warnings hknown, hshown hknown, groupEnd]
  · rename_i h₁ h₂ h₃ h₄
    refine .inr (.inr ⟨?_, ?_, rfl⟩)
    · simpa [opensGroup] using ⟨h₁, h₂⟩
    · simpa [endsGroup] using ⟨h₃, h₄⟩

/-- The entry of a row that counts. -/
def entry (choices : Option ChoicesSheet) (options : Options) (row : SurveyRow) : Entry :=
  (readingOf choices options row (row.typeText.getD "")).entry

theorem entry_cases (choices : Option ChoicesSheet) (options : Options) (row : SurveyRow) :
    (row.opensGroup = true ∧ row.endsGroup = false ∧
      row.entry choices options = .opening row.openedGroup) ∨
    (row.opensGroup = false ∧ row.endsGroup = true ∧
      row.entry choices options = .ending row.groupEnd) ∨
    (row.opensGroup = false ∧ row.endsGroup = false ∧
      row.entry choices options = .question (row.askedQuestion choices options)) := by
  unfold entry
  obtain ⟨ho, hn, hr⟩ | ⟨ho, hn, hr⟩ | ⟨ho, hn, hr⟩ := row.reading_cases choices options
  · exact .inl ⟨ho, hn, by rw [hr]⟩
  · exact .inr (.inl ⟨ho, hn, by rw [hr]⟩)
  · exact .inr (.inr ⟨ho, hn, by rw [hr]⟩)

theorem eventOf_entry (choices : Option ChoicesSheet) (options : Options) (depth : Nat)
    (row : SurveyRow) :
    Nesting.eventOf depth (row.entry choices options) =
      if row.endsGroup ∧ depth = 0 then [] else [row.event choices options] := by
  rcases row.entry_cases choices options with ⟨ho, hn, he⟩ | ⟨ho, hn, he⟩ | ⟨ho, hn, he⟩
  · simp [he, Nesting.eventOf, event, ho, hn]
  · simp [he, Nesting.eventOf, event, ho, hn]
  · simp [he, Nesting.eventOf, event, ho, hn]

theorem depthBehind_entry (choices : Option ChoicesSheet) (options : Options) (depth : Nat)
    (row : SurveyRow) :
    Nesting.depthBehind depth (row.entry choices options) = row.depthBehind depth := by
  rcases row.entry_cases choices options with ⟨ho, -, he⟩ | ⟨ho, hn, he⟩ | ⟨ho, hn, he⟩
  · simp [he, Nesting.depthBehind, depthBehind, ho]
  · simp [he, Nesting.depthBehind, depthBehind, ho, hn]
  · simp [he, Nesting.depthBehind, depthBehind, ho, hn]

end SurveyRow

/-! ## Runs of rows -/

open SurveyRow

theorem readings_eq (choices : Option ChoicesSheet) (options : Options) (rows : List SurveyRow) :
    readings choices options rows =
      (rows.filter counts).map fun row => readingOf choices options row (row.typeText.getD "") := by
  induction rows with
  | nil => rfl
  | cons row rows ih =>
    have hrow : reading? choices options row =
        if row.counts then some (readingOf choices options row (row.typeText.getD ""))
        else none := by
      unfold reading? typeCell? counts
      cases row.vacant <;> cases row.typeText <;> rfl
    unfold readings at ih ⊢
    cases hc : row.counts with
    | false =>
      rw [List.filterMap_cons_none (by rw [hrow, hc]; rfl), ih,
        List.filter_cons_of_neg (by simp [hc])]
    | true =>
      rw [List.filterMap_cons_some (by rw [hrow, hc]; rfl), ih, List.filter_cons_of_pos hc,
        List.map_cons]

theorem runEvents_entries (choices : Option ChoicesSheet) (options : Options) (depth : Nat)
    (rows : List SurveyRow) :
    Nesting.runEvents depth (rows.map (entry choices options)) =
      (withoutStrays depth rows).map (event choices options) := by
  induction rows generalizing depth with
  | nil => rfl
  | cons row rows ih =>
    rw [List.map_cons, Nesting.runEvents, eventOf_entry, depthBehind_entry, ih, withoutStrays]
    by_cases h : row.endsGroup ∧ depth = 0
    · -- a stray: nothing is open in front of it, and so nothing behind it
      rw [if_pos h, if_pos h]
      obtain ⟨hend, rfl⟩ := h
      have hdepth : row.depthBehind 0 = 0 := by
        simp [depthBehind, opensGroup_eq_false_of_endsGroup hend]
      rw [hdepth, List.nil_append]
    · rw [if_neg h, if_neg h]
      rfl

theorem foldl_depthBehind_entries (choices : Option ChoicesSheet) (options : Options) (depth : Nat)
    (rows : List SurveyRow) :
    (rows.map (entry choices options)).foldl Nesting.depthBehind depth =
      rows.foldl SurveyRow.depthBehind depth := by
  induction rows generalizing depth with
  | nil => rfl
  | cons row rows ih =>
    rw [List.map_cons, List.foldl_cons, List.foldl_cons, depthBehind_entry, ih]

/-- The walk over the items of a form, whatever its rows: the events of the rows that count, in
sheet order and without the stray endings, then a closing for every group still open. -/
theorem events_assemble (form : Form) (options : Options) :
    (form.assemble options).items.events =
      (withoutStrays 0 (form.survey.rows.filter counts)).map (event form.choices options)
        ++ List.replicate (stillOpen (form.survey.rows.filter counts)) .closing := by
  have hentries : (readings form.choices options form.survey.rows).map Reading.entry =
      (form.survey.rows.filter counts).map (entry form.choices options) := by
    rw [readings_eq, List.map_map]
    rfl
  have hitems : (form.assemble options).items =
      (Nesting.ofEntries
        ((readings form.choices options form.survey.rows).map Reading.entry)).forest := rfl
  rw [hitems, hentries, Nesting.events_forest_ofEntries, runEvents_entries,
    foldl_depthBehind_entries]
  rfl

end Questionnaire
