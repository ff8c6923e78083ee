import Mathlib.Data.List.Infix
import Questionnaire.Proofs.Assembly.RowOrder

/-!
# Unbalanced groups

The general warnings are about groups that are ended without being started, and groups that are
started without being ended. Which rows these are can be told from the rows alone: an ending is a
stray if the rows in front of it leave no group open, and a group is never ended if the rows behind
its start nowhere end more groups than they start.

Results:

* `unended_foldl_entries`: which groups are open behind a run of rows.
* `strays_entries`: which endings of a run of rows are strays.
* `general_assemble`: the general warnings of a form.
-/

namespace Questionnaire

namespace SurveyRow

/-! ## Rows without a counterpart -/

/-- The endings in front of which no group is open. -/
def strayEnds (rows : List SurveyRow) : List SurveyRow :=
  ((rows.zip rows.inits).filter fun (row, front) => row.endsGroup && stillOpen front = 0).map
    Prod.fst

/-- Up to some row, more groups are ended than started. -/
def endsMore (rows : List SurveyRow) : Bool :=
  rows.inits.any fun front => front.countP opensGroup < front.countP endsGroup

/-- The starts behind which nowhere more groups are ended than started. -/
def unendedStarts : List SurveyRow → List SurveyRow
  | [] => []
  | row :: rows =>
    if row.opensGroup && !endsMore rows then row :: unendedStarts rows else unendedStarts rows

/-- How many groups must be open in front of the rows, for each of their endings to end one. -/
def needed : List SurveyRow → Nat
  | [] => 0
  | row :: rows =>
    if row.opensGroup then needed rows - 1
    else if row.endsGroup then needed rows + 1
    else needed rows

/-- A row starts a group, ends one, or does neither. -/
theorem bracket_cases (row : SurveyRow) :
    (row.opensGroup = true ∧ row.endsGroup = false) ∨
    (row.opensGroup = false ∧ row.endsGroup = true) ∨
    (row.opensGroup = false ∧ row.endsGroup = false) := by
  cases ho : row.opensGroup with
  | true => exact .inl ⟨rfl, endsGroup_eq_false_of_opensGroup ho⟩
  | false =>
    cases row.endsGroup with
    | true => exact .inr (.inl ⟨rfl, rfl⟩)
    | false => exact .inr (.inr ⟨rfl, rfl⟩)

theorem forall_mem_inits_cons {row : SurveyRow} {rows : List SurveyRow}
    {p : List SurveyRow → Prop} :
    (∀ front ∈ (row :: rows).inits, p front) ↔ p [] ∧ ∀ front ∈ rows.inits, p (row :: front) := by
  rw [List.inits_cons, List.forall_mem_cons, List.forall_mem_map]

/-- As many open groups as the rows need are enough at every row. -/
theorem needed_le_iff {rows : List SurveyRow} {depth : Nat} :
    needed rows ≤ depth ↔
      ∀ front ∈ rows.inits, front.countP endsGroup ≤ front.countP opensGroup + depth := by
  induction rows generalizing depth with
  | nil => simp [needed]
  | cons row rows ih =>
    rw [forall_mem_inits_cons]
    obtain ⟨ho, hn⟩ | ⟨ho, hn⟩ | ⟨ho, hn⟩ := row.bracket_cases
    · have hrows := @ih (depth + 1)
      simp only [needed, ho, hn, if_true, List.countP_cons, List.countP_nil, Nat.zero_le, true_and]
      rw [Nat.sub_le_iff_le_add, hrows]
      refine forall₂_congr fun front _ => ?_
      rw [if_neg Bool.false_ne_true]
      omega
    · simp only [needed, ho, hn, if_true, List.countP_cons, List.countP_nil, Nat.zero_le, true_and]
      cases depth with
      | zero =>
        -- already the row itself ends more than there is
        simp
        exact ⟨[], by simp, by simp⟩
      | succ depth =>
        have hrows := @ih depth
        simp [hrows, ← Nat.add_assoc]
    · have hrows := @ih depth
      simp [needed, ho, hn, hrows]

theorem endsMore_eq_false_iff {rows : List SurveyRow} :
    endsMore rows = false ↔ needed rows = 0 := by
  rw [← Nat.le_zero, needed_le_iff, endsMore, List.any_eq_false]
  simp

/-- The groups that are open behind rows that need no more than are open in front of them. -/
theorem foldl_depthBehind_add_countP {rows : List SurveyRow} {depth : Nat}
    (h : needed rows ≤ depth) :
    rows.foldl depthBehind depth + rows.countP endsGroup = depth + rows.countP opensGroup := by
  induction rows generalizing depth with
  | nil => rfl
  | cons row rows ih =>
    rw [List.foldl_cons, List.countP_cons, List.countP_cons]
    obtain ⟨ho, hn⟩ | ⟨ho, hn⟩ | ⟨ho, hn⟩ := row.bracket_cases
    · have hrows := @ih (depth + 1)
      simp [needed, depthBehind, ho, hn] at h ⊢
      omega
    · have hrows := @ih (depth - 1)
      simp [needed, depthBehind, ho, hn] at h ⊢
      omega
    · have hrows := @ih depth
      simp [needed, depthBehind, ho, hn] at h ⊢
      omega

end SurveyRow

namespace Nesting

/-! ## Open groups -/

/-- A start adds a group, an end takes the innermost one away. -/
theorem unended_add (nesting : Nesting) (entry : Entry) :
    (nesting.add entry).unended =
      match entry with
      | .opening group => group :: nesting.unended
      | .question _ => nesting.unended
      | .ending _ => nesting.unended.tail := by
  obtain ⟨items, openGroups⟩ := nesting
  cases entry with
  | opening group => rfl
  | question question => rfl
  | ending groupEnd => cases openGroups <;> rfl

end Nesting

open SurveyRow

/-- Behind a run of rows those groups are open that it starts and never ends, and of the groups in
front of it those that it does not need. -/
theorem unended_foldl_entries (choices : Option ChoicesSheet) (options : Options)
    (nesting : Nesting) (rows : List SurveyRow) :
    ((rows.map (entry choices options)).foldl Nesting.add nesting).unended =
      (unendedStarts rows).reverse.map openedGroup ++ nesting.unended.drop (needed rows) := by
  induction rows generalizing nesting with
  | nil => rfl
  | cons row rows ih =>
    rw [List.map_cons, List.foldl_cons, ih, Nesting.unended_add]
    obtain ⟨ho, hn, he⟩ | ⟨ho, hn, he⟩ | ⟨ho, hn, he⟩ := row.entry_cases choices options
    · cases hmore : endsMore rows with
      | false =>
        have hneeded := endsMore_eq_false_iff.1 hmore
        simp [he, unendedStarts, needed, ho, hmore, hneeded]
      | true =>
        have hneeded : needed rows ≠ 0 := fun h => by
          rw [endsMore_eq_false_iff.2 h] at hmore
          cases hmore
        obtain ⟨n, hn⟩ := Nat.exists_eq_succ_of_ne_zero hneeded
        simp [he, unendedStarts, needed, ho, hmore, hn]
    · simp [he, unendedStarts, needed, ho, hn, List.drop_tail]
    · simp [he, unendedStarts, needed, ho, hn]

theorem unended_entries_eq_nil_iff (choices : Option ChoicesSheet) (options : Options)
    {rows : List SurveyRow} :
    (Nesting.ofEntries (rows.map (entry choices options))).unended = [] ↔ stillOpen rows = 0 := by
  have hdepth := Nesting.depth_foldl_add .empty (rows.map (entry choices options))
  rw [foldl_depthBehind_entries] at hdepth
  rw [Nesting.unended, List.map_eq_nil_iff, ← List.length_eq_zero_iff]
  exact Eq.congr_left hdepth

/-! ## Strays -/

theorem strays_entries (choices : Option ChoicesSheet) (options : Options) (depth : Nat)
    (rows : List SurveyRow) :
    Nesting.strays depth (rows.map (entry choices options)) =
      ((rows.zip rows.inits).filter fun (row, front) =>
        row.endsGroup && front.foldl depthBehind depth = 0).map (groupEnd ∘ Prod.fst) := by
  induction rows generalizing depth with
  | nil => rfl
  | cons row rows ih =>
    have hzip : (row :: rows).zip (row :: rows).inits =
        (row, []) :: (rows.zip rows.inits).map fun (other, front) => (other, row :: front) := by
      rw [List.inits_cons, List.zip_cons_cons, List.zip_map_right]
      rfl
    have hrest (depth : Nat) : ((((rows.zip rows.inits).map
          fun (other, front) => (other, row :: front)).filter fun (other, front) =>
            other.endsGroup && front.foldl depthBehind depth = 0).map (groupEnd ∘ Prod.fst)) =
        Nesting.strays (row.depthBehind depth) (rows.map (entry choices options)) := by
      rw [ih, List.filter_map, List.map_map]
      rfl
    rw [List.map_cons, hzip]
    obtain ⟨ho, hn, he⟩ | ⟨ho, hn, he⟩ | ⟨ho, hn, he⟩ := row.entry_cases choices options
    · rw [List.filter_cons_of_neg (by simp [hn]), hrest, he, Nesting.strays, depthBehind, if_pos ho]
    · cases depth with
      | zero =>
        rw [List.filter_cons_of_pos (by simp [hn]), List.map_cons, hrest, he, Nesting.strays,
          depthBehind, ho, hn]
        rfl
      | succ depth =>
        rw [List.filter_cons_of_neg (by simp), hrest, he, Nesting.strays, depthBehind, ho, hn]
        rfl
    · rw [List.filter_cons_of_neg (by simp [hn]), hrest, he, Nesting.strays, depthBehind, ho, hn]
      rfl

theorem strays_zero_entries (choices : Option ChoicesSheet) (options : Options)
    (rows : List SurveyRow) : Nesting.strays 0 (rows.map (entry choices options)) =
      (strayEnds rows).map groupEnd := by
  rw [strays_entries, strayEnds, List.map_map]
  rfl

theorem strays_entries_eq_nil_iff (choices : Option ChoicesSheet) (options : Options)
    {depth : Nat} {rows : List SurveyRow} :
    Nesting.strays depth (rows.map (entry choices options)) = [] ↔ needed rows ≤ depth := by
  induction rows generalizing depth with
  | nil => simp [Nesting.strays, needed]
  | cons row rows ih =>
    rw [List.map_cons]
    obtain ⟨ho, hn, he⟩ | ⟨ho, hn, he⟩ | ⟨ho, hn, he⟩ := row.entry_cases choices options
    · simp [he, Nesting.strays, ih, needed, ho]
    · cases depth <;> simp [he, Nesting.strays, ih, needed, ho, hn]
    · simp [he, Nesting.strays, ih, needed, ho, hn]

/-! ## Warnings -/

/-- No row needs a group that is not open, and none is left open, exactly when the starts and the
ends are balanced. -/
theorem balanced_iff {rows : List SurveyRow} :
    needed rows = 0 ∧ stillOpen rows = 0 ↔ rows.countP opensGroup = rows.countP endsGroup ∧
      ∀ front, front <+: rows → front.countP endsGroup ≤ front.countP opensGroup := by
  have hneeded : needed rows = 0 ↔
      ∀ front, front <+: rows → front.countP endsGroup ≤ front.countP opensGroup := by
    rw [← Nat.le_zero, needed_le_iff]
    simp
  rw [← hneeded, and_comm]
  refine and_congr_left fun h => ?_
  have hcount := foldl_depthBehind_add_countP (Nat.le_of_eq h)
  rw [stillOpen]
  omega

/-- The general warnings of a form, whatever its rows: one for every ending in front of which no
group is open, in sheet order, then one for every group that is never ended, the innermost first,
at the last content row. There are none exactly when starts and ends are balanced. -/
theorem general_assemble (form : Form) (options : Options) :
    let rows := form.survey.rows.filter counts
    (form.assemble options).warnings.general =
        (strayEnds rows).map (fun row =>
          { fault := .groupNotStarted, row := some row.reference, itemId := row.name,
            itemType := some row.spec.text })
        ++ (unendedStarts rows).reverse.map (fun row =>
          { fault := .groupNotEnded, row := form.survey.rows.getLast?.map reference,
            itemId := row.name, itemType := none }) ∧
      ((form.assemble options).warnings.general = [] ↔
        rows.countP opensGroup = rows.countP endsGroup ∧
          ∀ front, front <+: rows → front.countP endsGroup ≤ front.countP opensGroup) := by
  intro rows
  have hentries : (readings form.choices options form.survey.rows).map Reading.entry =
      rows.map (entry form.choices options) := by
    rw [readings_eq, List.map_map]
    rfl
  have hgeneral : (form.assemble options).warnings.general =
      (Nesting.strays 0 (rows.map (entry form.choices options))).map GroupEnd.warning
        ++ (Nesting.ofEntries (rows.map (entry form.choices options))).unended.map fun group =>
          group.warning (form.survey.rows.getLast?.map reference) := by
    rw [← hentries]
    rfl
  have hunended : (Nesting.ofEntries (rows.map (entry form.choices options))).unended =
      (unendedStarts rows).reverse.map openedGroup := by
    rw [Nesting.ofEntries, unended_foldl_entries]
    exact (congrArg _ List.drop_nil).trans (List.append_nil _)
  refine ⟨?_, ?_⟩
  · rw [hgeneral, strays_zero_entries, hunended, List.map_map, List.map_map]
    rfl
  · rw [hgeneral, List.append_eq_nil_iff, List.map_eq_nil_iff, List.map_eq_nil_iff,
      strays_entries_eq_nil_iff, unended_entries_eq_nil_iff, Nat.le_zero, balanced_iff]

end Questionnaire
