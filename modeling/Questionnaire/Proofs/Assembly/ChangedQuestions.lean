import Mathlib.Data.List.Basic
import Questionnaire.Assembly

/-!
# Changed questions

How the entries of a survey nest depends on which of them open and end groups, and not on what the
questions say. So questions can be changed in front of the assembly or behind it, and the warnings
stay the same.

Main definitions:

* `Forest.mapItems`: the items of a forest changed one by one.
* `Assembled.mapQuestions`: an assembled form with its questions changed.

Results:

* `Nesting.ofEntries_mapQuestion`: changed questions nest as before.
* `assembleRows_mapQuestions_congr`: rows that read alike up to a change of their questions are
  assembled alike up to this change.
-/

namespace Questionnaire

/-! ## Items -/

/-- The items changed one by one, each group in its place around what it holds. -/
def Forest.mapItems (onGroup : Group → Group) (onQuestion : Question → Question) : Forest → Forest
  | .nil => .nil
  | .group g inner rest =>
    .group (onGroup g) (inner.mapItems onGroup onQuestion) (rest.mapItems onGroup onQuestion)
  | .question q rest => .question (onQuestion q) (rest.mapItems onGroup onQuestion)

namespace Forest

theorem mapItems_append (f : Group → Group) (g : Question → Question) (items other : Forest) :
    (items.append other).mapItems f g = (items.mapItems f g).append (other.mapItems f g) := by
  induction items with
  | nil => rfl
  | group item inner rest _ ih => rw [append, mapItems, ih, mapItems, append]
  | question item rest ih => rw [append, mapItems, ih, mapItems, append]

theorem mapItems_mapItems (f f' : Group → Group) (g g' : Question → Question) (items : Forest) :
    (items.mapItems f g).mapItems f' g' = items.mapItems (f' ∘ f) (g' ∘ g) := by
  induction items with
  | nil => rfl
  | group item inner rest ihInner ihRest =>
    rw [mapItems, mapItems, ihInner, ihRest]
    rfl
  | question item rest ih =>
    rw [mapItems, mapItems, ih]
    rfl

end Forest

variable (g : Question → Question)

/-! ## Nesting -/

/-- The entry with its question changed, if it is one. -/
def Entry.mapQuestion : Entry → Entry
  | .question q => .question (g q)
  | entry => entry

namespace Nesting

/-- The nesting with the questions changed that it has so far. -/
def mapQuestions (nesting : Nesting) : Nesting where
  items := nesting.items.mapItems id g
  openGroups := nesting.openGroups.map fun (group, before) => (group, before.mapItems id g)

theorem mapQuestions_add (nesting : Nesting) (entry : Entry) :
    (nesting.add entry).mapQuestions g = (nesting.mapQuestions g).add (entry.mapQuestion g) := by
  obtain ⟨items, openGroups⟩ := nesting
  cases entry with
  | opening group => rfl
  | question question =>
    show Nesting.mk ((items.append (.question question .nil)).mapItems id g) _ = _
    rw [Forest.mapItems_append]
    rfl
  | ending groupEnd =>
    cases openGroups with
    | nil => rfl
    | cons first outer =>
      obtain ⟨group, before⟩ := first
      show Nesting.mk ((before.append (.group group items .nil)).mapItems id g) _ = _
      rw [Forest.mapItems_append]
      rfl

/-- Changed questions nest as before. -/
theorem ofEntries_mapQuestion (entries : List Entry) :
    ofEntries (entries.map (Entry.mapQuestion g)) = (ofEntries entries).mapQuestions g := by
  have hrun (nesting : Nesting) : (entries.map (Entry.mapQuestion g)).foldl add
      (nesting.mapQuestions g) = (entries.foldl add nesting).mapQuestions g := by
    induction entries generalizing nesting with
    | nil => rfl
    | cons entry entries ih =>
      rw [List.map_cons, List.foldl_cons, List.foldl_cons, ← mapQuestions_add, ih]
  exact hrun empty

theorem closeAll_mapQuestions (items : Forest) (outer : List (Group × Forest)) :
    closeAll (items.mapItems id g)
        (outer.map fun (group, before) => (group, before.mapItems id g)) =
      (closeAll items outer).mapItems id g := by
  induction outer generalizing items with
  | nil => rfl
  | cons first outer ih =>
    obtain ⟨group, before⟩ := first
    rw [List.map_cons, closeAll, closeAll, ← ih, Forest.mapItems_append]
    rfl

theorem forest_mapQuestions (nesting : Nesting) :
    (nesting.mapQuestions g).forest = nesting.forest.mapItems id g :=
  closeAll_mapQuestions g nesting.items nesting.openGroups

theorem unended_mapQuestions (nesting : Nesting) :
    (nesting.mapQuestions g).unended = nesting.unended := by
  unfold unended mapQuestions
  rw [List.map_map]
  rfl

theorem strays_mapQuestion (depth : Nat) (entries : List Entry) :
    strays depth (entries.map (Entry.mapQuestion g)) = strays depth entries := by
  induction entries generalizing depth with
  | nil => rfl
  | cons entry entries ih =>
    rw [List.map_cons]
    cases entry with
    | opening group => exact ih (depth + 1)
    | question question => exact ih depth
    | ending groupEnd =>
      cases depth with
      | zero => exact congrArg (groupEnd :: ·) (ih 0)
      | succ depth => exact ih depth

end Nesting

/-! ## Assembling -/

/-- The reading with its question changed, if it is one. -/
def Reading.mapQuestion (reading : Reading) : Reading :=
  { reading with entry := reading.entry.mapQuestion g }

def Assembled.mapQuestions (assembled : Assembled) : Assembled :=
  { assembled with items := assembled.items.mapItems id g }

/-- What readings make up, when `lastRow` is the last row of the worksheet. -/
def assembleReadings (lastRow : Option String) (readings : List Reading) : Assembled :=
  let nesting := Nesting.ofEntries (readings.map Reading.entry)
  { items := nesting.forest
    warnings :=
      { general := (Nesting.strays 0 (readings.map Reading.entry)).map GroupEnd.warning
          ++ nesting.unended.map fun group => group.warning lastRow
        specific := readings.flatMap Reading.warnings } }

theorem assembleReadings_mapQuestion (lastRow : Option String) (readings : List Reading) :
    assembleReadings lastRow (readings.map (Reading.mapQuestion g)) =
      (assembleReadings lastRow readings).mapQuestions g := by
  have hentries : (readings.map (Reading.mapQuestion g)).map Reading.entry =
      (readings.map Reading.entry).map (Entry.mapQuestion g) := by
    rw [List.map_map, List.map_map]
    rfl
  unfold assembleReadings
  rw [hentries, Nesting.ofEntries_mapQuestion]
  dsimp only
  rw [Nesting.forest_mapQuestions, Nesting.unended_mapQuestions, Nesting.strays_mapQuestion,
    List.flatMap_map]
  rfl

variable {g}

/-- Rows that read alike up to a change of their questions are assembled alike up to this change. -/
theorem assembleRows_mapQuestions_congr {choices : Option ChoicesSheet} {options others : Options}
    (h : ∀ row : SurveyRow, (row.reading? choices options).map (Reading.mapQuestion g) =
      (row.reading? choices others).map (Reading.mapQuestion g)) (rows : List SurveyRow) :
    (assembleRows choices options rows).mapQuestions g =
      (assembleRows choices others rows).mapQuestions g := by
  have hreadings : (readings choices options rows).map (Reading.mapQuestion g) =
      (readings choices others rows).map (Reading.mapQuestion g) := by
    unfold readings
    rw [List.map_filterMap, List.map_filterMap]
    exact List.filterMap_congr fun row _ => h row
  have hassemble (options : Options) : assembleRows choices options rows =
      assembleReadings (rows.getLast?.map SurveyRow.reference)
        (readings choices options rows) := rfl
  rw [hassemble, hassemble, ← assembleReadings_mapQuestion, ← assembleReadings_mapQuestion,
    hreadings]

end Questionnaire
