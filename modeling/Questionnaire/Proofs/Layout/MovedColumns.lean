import Mathlib.Data.List.Nodup
import Mathlib.Data.Set.Monotone
import Questionnaire.Form

/-!
# Moved columns

The columns of a worksheet are found by their titles. When all rows move their columns alike, each
column is found where it has moved to, and the rows are read as before. The order of columns counts
in few places only: among columns of one title, within a cluster, and among the choice filters.

Main definitions:

* `Row.Moved`: the columns of a row have moved.
* `Header.OrderKept`: the order is kept where it counts.

Results:

* `Header.filter_titled_moved`: the titled columns of any kind are found in the same order.
* `SurveyColumns.find_moved`, `ChoicesColumns.find_moved`: the columns of a worksheet have moved.
* `SurveyColumns.read_move`, `ChoicesColumns.read_move`: moved rows are read as before.
-/

namespace Questionnaire

variable {f : ℕ → ℕ}

/-! ## Rows -/

/-- What stands in a column of the row stands in column `f` of the other, which has nothing else. -/
structure Row.Moved (f : ℕ → ℕ) (row other : Row) : Prop where
  number : other.number = row.number
  text : ∀ column, other.text (f column) = row.text column
  nothingElse : ∀ column text, other.text column = some text → ∃ source, f source = column

/-- A column that may be missing. -/
theorem Row.Moved.bind_text {row other : Row} (h : row.Moved f other) (column : Option ℕ) :
    (column.map f).bind other.text = column.bind row.text := by
  cases column with
  | none => rfl
  | some column => exact h.text column

theorem Row.Moved.isVacant {row other : Row} (h : row.Moved f other) :
    other.isVacant = row.isVacant := by
  rw [Bool.eq_iff_iff, Row.isVacant_iff, Row.isVacant_iff]
  constructor
  · intro hnone column
    rw [← h.text]
    exact hnone _
  · intro hnone column
    cases htext : other.text column with
    | none => rfl
    | some text =>
      obtain ⟨source, rfl⟩ := h.nothingElse column text htext
      rw [← htext, h.text, hnone]

/-! ## Titled columns -/

namespace Header

theorem mem_titled_ofRow {sheet : SheetKind} {row : Row} {column : ℕ} {title : String} :
    (column, title) ∈ (ofRow sheet row).titled ↔ row.text column = some title := by
  rw [mem_titled_iff, ofRow, List.getElem?_map, Row.text]
  cases row.cells[column]? with
  | none => simp
  | some cell => simp

/-- The titled columns stand in order. -/
theorem pairwise_titled (header : Header) :
    header.titled.Pairwise fun entry later => entry.1 < later.1 := by
  have hcolumns : header.titles.zipIdx.Pairwise fun entry later => entry.2 < later.2 := by
    rw [← List.pairwise_map (f := Prod.snd), List.zipIdx_map_snd]
    exact List.pairwise_lt_range' 1
  refine List.pairwise_filterMap.2 (hcolumns.imp fun hlt => ?_)
  intro titled htitled titled' htitled'
  obtain ⟨title, -, rfl⟩ := Option.map_eq_some_iff.1 htitled
  obtain ⟨title', -, rfl⟩ := Option.map_eq_some_iff.1 htitled'
  exact hlt

theorem nodup_of_pairwise {entries : List (ℕ × String)}
    (h : entries.Pairwise fun entry later => entry.1 < later.1) : entries.Nodup :=
  h.imp fun hlt heq => absurd (congrArg Prod.fst heq) (Nat.ne_of_lt hlt)

variable {sheet : SheetKind} {row other : Row}

/-- The titled columns of any kind have moved, and stand in the same order as long as this order is
kept. -/
theorem filter_titled_moved (h : row.Moved f other) {p q : ℕ × String → Bool}
    (hpq : ∀ column title, q (f column, title) = p (column, title))
    (horder : StrictMonoOn f
      {column | column ∈ ((ofRow sheet row).titled.filter p).map Prod.fst}) :
    (ofRow sheet other).titled.filter q =
      ((ofRow sheet row).titled.filter p).map (Prod.map f id) := by
  have hfound : ((ofRow sheet other).titled.filter q).Pairwise fun entry later =>
      entry.1 < later.1 := (pairwise_titled _).filter q
  have hmoved : (((ofRow sheet row).titled.filter p).map (Prod.map f id)).Pairwise
      fun entry later => entry.1 < later.1 := by
    rw [List.pairwise_map]
    refine List.Pairwise.imp_of_mem ?_ ((pairwise_titled (ofRow sheet row)).filter p)
    intro entry later hentry hlater hlt
    exact horder (List.mem_map_of_mem hentry) (List.mem_map_of_mem hlater) hlt
  have hperm : ((ofRow sheet other).titled.filter q).Perm
      (((ofRow sheet row).titled.filter p).map (Prod.map f id)) := by
    refine (List.perm_ext_iff_of_nodup (nodup_of_pairwise hfound) (nodup_of_pairwise hmoved)).2 ?_
    rintro ⟨column, title⟩
    rw [List.mem_filter, mem_titled_ofRow, List.mem_map]
    constructor
    · rintro ⟨htext, hq⟩
      obtain ⟨source, rfl⟩ := h.nothingElse column title htext
      rw [hpq] at hq
      rw [h.text] at htext
      exact ⟨(source, title), List.mem_filter.2 ⟨mem_titled_ofRow.2 htext, hq⟩, rfl⟩
    · rintro ⟨⟨source, title'⟩, hm, heq⟩
      obtain ⟨rfl, rfl⟩ := Prod.mk.inj heq
      obtain ⟨hm, hp⟩ := List.mem_filter.1 hm
      exact ⟨(h.text source).trans (mem_titled_ofRow.1 hm), (hpq source title').trans hp⟩
  exact hperm.eq_of_pairwise (fun _ _ _ _ hlt hgt => absurd hlt (Nat.lt_asymm hgt)) hfound hmoved

/-! ## Columns by title -/

theorem position?_moved (h : row.Moved f other) {title : String}
    (horder : StrictMonoOn f {column | (column, title) ∈ (ofRow sheet row).titled}) :
    (ofRow sheet other).position? title = ((ofRow sheet row).position? title).map f := by
  have htitled : {column | column ∈ ((ofRow sheet row).titled.filter
      fun entry => entry.2 = title).map Prod.fst} ⊆
      {column | (column, title) ∈ (ofRow sheet row).titled} := by
    intro column hm
    obtain ⟨⟨source, found⟩, hfound, rfl⟩ := List.mem_map.1 hm
    obtain ⟨htitled, htitle⟩ := List.mem_filter.1 hfound
    obtain rfl : found = title := of_decide_eq_true htitle
    exact htitled
  have hfilter : (ofRow sheet other).titled.filter (fun entry => entry.2 = title) =
      ((ofRow sheet row).titled.filter fun entry => entry.2 = title).map (Prod.map f id) :=
    filter_titled_moved h (fun _ _ => rfl) (horder.mono htitled)
  unfold position?
  rw [← List.head?_filter, ← List.head?_filter, hfilter, List.head?_map, Option.map_map,
    Option.map_map]
  rfl

/-! ## Clusters -/

/-- The columns of the cluster of a stem. -/
def clusterColumns (header : Header) (stem : String) : List ℕ := (header.tails stem).map Prod.fst

/-- The tails of a cluster are those of the titled columns that belong to it. -/
theorem tails_eq (header : Header) (stem : String) :
    header.tails stem = (header.titled.filter fun entry => (clusterTail? stem entry.2).isSome).map
      fun entry => (entry.1, entry.2, (clusterTail? stem entry.2).getD "") := by
  rw [tails, ← List.filterMap_eq_map, List.filterMap_filter]
  congr 1
  funext ⟨column, title⟩
  cases htail : clusterTail? stem title <;> simp [htail]

theorem tails_moved (h : row.Moved f other) {stem : String}
    (horder : StrictMonoOn f {column | column ∈ (ofRow sheet row).clusterColumns stem}) :
    (ofRow sheet other).tails stem =
      ((ofRow sheet row).tails stem).map fun entry => (f entry.1, entry.2) := by
  rw [clusterColumns, tails_eq, List.map_map] at horder
  have hfilter : (ofRow sheet other).titled.filter
      (fun entry => (clusterTail? stem entry.2).isSome) = _ :=
    filter_titled_moved h (fun _ _ => rfl) horder
  rw [tails_eq, tails_eq, hfilter, List.map_map, List.map_map]
  rfl

end Header

def ClusterColumn.move (f : ℕ → ℕ) (column : ClusterColumn) : ClusterColumn :=
  { column with column := f column.column }

namespace Cluster

/-- The cluster with its columns moved. -/
def move (f : ℕ → ℕ) (cluster : Cluster) : Cluster :=
  { cluster with columns := cluster.columns.map (ClusterColumn.move f) }

@[simp] theorem languages_move (cluster : Cluster) :
    (cluster.move f).languages = cluster.languages := by
  unfold languages move
  rw [List.map_map]
  rfl

theorem localized_move {row other : Row} (h : row.Moved f other) (cluster : Cluster) :
    (cluster.move f).localized other = cluster.localized row := by
  unfold localized move
  rw [List.map_map]
  refine congrArg Localized.ofList (List.map_congr_left fun column _ => ?_)
  show (column.language, other.text (f column.column)) = _
  rw [h.text]

theorem hasColumn_move (hf : f.Injective) (cluster : Cluster) (column : ℕ) :
    (cluster.move f).hasColumn (f column) = cluster.hasColumn column := by
  unfold hasColumn move
  rw [List.any_map]
  congr 1
  funext other
  exact decide_eq_decide.2 hf.eq_iff

end Cluster

namespace Header

variable {sheet : SheetKind} {row other : Row}

theorem cluster?_moved (h : row.Moved f other) {stem : String}
    (horder : StrictMonoOn f {column | column ∈ (ofRow sheet row).clusterColumns stem}) :
    (ofRow sheet other).cluster? stem = ((ofRow sheet row).cluster? stem).map (Cluster.move f) := by
  have hcolumns (found : List (ℕ × String × String)) :
      ((found.map fun entry => (f entry.1, entry.2)).zip (presentableTails
        ((found.map fun entry => (f entry.1, entry.2)).map (·.2.2)))).map
          (fun entry => (⟨entry.1.2.1, entry.2, entry.1.1⟩ : ClusterColumn)) =
      ((found.zip (presentableTails (found.map (·.2.2)))).map
        fun entry => ⟨entry.1.2.1, entry.2, entry.1.1⟩).map (ClusterColumn.move f) := by
    rw [List.map_map, List.zip_map_left, List.map_map, List.map_map]
    rfl
  unfold cluster?
  rw [tails_moved h horder]
  cases (ofRow sheet row).tails stem with
  | nil => rfl
  | cons entry rest =>
    exact congrArg (fun columns => some (Cluster.mk stem columns)) (hcolumns (entry :: rest))

/-! ## Where the order counts -/

/-- The columns that filter the choices, if the columns of the choices are found. -/
def choiceFilters (header : Header) : List ℕ :=
  match ChoicesColumns.find header with
  | .ok columns => columns.filters.map Prod.fst
  | .error _ => []

/-- The columns whose order counts: those of each cluster, and those that filter the choices. -/
def orderedColumns (header : Header) : List (List ℕ) :=
  match header.sheet with
  | .survey => ["label", "hint", "constraint_message"].map header.clusterColumns
  | .choices => [header.clusterColumns "label", header.choiceFilters]
  | .settings => []

/-- The order of columns is kept where it counts. -/
structure OrderKept (f : ℕ → ℕ) (header : Header) : Prop where
  injective : f.Injective
  titles : ∀ title, StrictMonoOn f {column | (column, title) ∈ header.titled}
  columns : ∀ columns ∈ header.orderedColumns, StrictMonoOn f {column | column ∈ columns}

section

variable (h : row.Moved f other) (horder : (ofRow sheet row).OrderKept f)

include h horder

theorem anyColumn?_moved (titles : List String) :
    (ofRow sheet other).anyColumn? titles = ((ofRow sheet row).anyColumn? titles).map f := by
  unfold anyColumn?
  rw [List.map_findSome?]
  congr 1
  funext title
  exact position?_moved h (horder.titles title)

theorem column_moved (title : String) :
    (ofRow sheet other).column title = ((ofRow sheet row).column title).map f := by
  unfold column
  rw [position?_moved h (horder.titles title)]
  cases (ofRow sheet row).position? title <;> rfl

theorem anyColumn_moved (titles : List String) :
    (ofRow sheet other).anyColumn titles = ((ofRow sheet row).anyColumn titles).map f := by
  unfold anyColumn
  rw [anyColumn?_moved h horder]
  cases (ofRow sheet row).anyColumn? titles <;> rfl

theorem cluster_moved {stem : String}
    (hstem : (ofRow sheet row).clusterColumns stem ∈ (ofRow sheet row).orderedColumns) :
    (ofRow sheet other).cluster stem =
      ((ofRow sheet row).cluster stem).map (Cluster.move f) := by
  unfold cluster
  rw [cluster?_moved h (horder.columns _ hstem)]
  cases (ofRow sheet row).cluster? stem <;> rfl

end

end Header

/-! ## The columns of a worksheet -/

namespace SurveyColumns

/-- The columns of a survey worksheet, moved. -/
def move (f : ℕ → ℕ) (columns : SurveyColumns) : SurveyColumns where
  type := f columns.type
  name := f columns.name
  relevant := f columns.relevant
  label := columns.label.map (Cluster.move f)
  hint := columns.hint.map (Cluster.move f)
  constraintMessage := columns.constraintMessage.map (Cluster.move f)
  required := columns.required.map f
  notes := columns.notes.map f
  appearance := columns.appearance.map f
  calculation := columns.calculation.map f
  defaultValue := columns.defaultValue.map f
  constraint := columns.constraint.map f
  readOnly := columns.readOnly.map f
  ageGroup := columns.ageGroup.map f
  choiceFilter := columns.choiceFilter.map f

theorem find_moved {header other : Row} (h : header.Moved f other)
    (horder : (Header.ofRow .survey header).OrderKept f) :
    find (.ofRow .survey other) = (find (.ofRow .survey header)).map (move f) := by
  have hcluster (stem : String) (hm : stem ∈ ["label", "hint", "constraint_message"]) :
      (Header.ofRow .survey other).cluster? stem =
        ((Header.ofRow .survey header).cluster? stem).map (Cluster.move f) :=
    Header.cluster?_moved h (horder.columns _ (List.mem_map_of_mem hm))
  unfold find
  simp only [Header.column_moved h horder, Header.anyColumn?_moved h horder,
    hcluster "label" (by decide), hcluster "hint" (by decide),
    hcluster "constraint_message" (by decide)]
  cases (Header.ofRow .survey header).column "type" with
  | error fault => rfl
  | ok type =>
    cases (Header.ofRow .survey header).column "name" with
    | error fault => rfl
    | ok name => cases (Header.ofRow .survey header).column "relevant" <;> rfl

theorem localized_move {row other : Row} (h : row.Moved f other) (cluster : Option Cluster) :
    localized (cluster.map (Cluster.move f)) other = localized cluster row := by
  cases cluster with
  | none => rfl
  | some cluster => exact cluster.localized_move h

/-- Moved rows are read through moved columns. -/
theorem read_move {row other : Row} (h : row.Moved f other) (columns : SurveyColumns) :
    (columns.move f).read other = columns.read row := by
  unfold read move
  simp only [h.number, h.isVacant, h.text, h.bind_text, localized_move h]

end SurveyColumns

namespace ChoicesColumns

/-- The columns of a choices worksheet, moved. -/
def move (f : ℕ → ℕ) (columns : ChoicesColumns) : ChoicesColumns where
  list := f columns.list
  name := f columns.name
  label := columns.label.move f
  filters := columns.filters.map (Prod.map f id)

theorem filterColumns_moved {header other : Row} (h : header.Moved f other) (hf : f.Injective)
    {list name : ℕ} {label : Cluster}
    (horder : StrictMonoOn f {column | column ∈
      (filterColumns (.ofRow .choices header) list name label).map Prod.fst}) :
    filterColumns (.ofRow .choices other) (f list) (f name) (label.move f) =
      (filterColumns (.ofRow .choices header) list name label).map (Prod.map f id) := by
  refine Header.filter_titled_moved h (fun column title => ?_) horder
  simp only [label.hasColumn_move hf, ne_eq, hf.eq_iff]

theorem find_moved {header other : Row} (h : header.Moved f other)
    (horder : (Header.ofRow .choices header).OrderKept f) :
    find (.ofRow .choices other) = (find (.ofRow .choices header)).map (move f) := by
  have hfilters : StrictMonoOn f
      {column | column ∈ (Header.ofRow .choices header).choiceFilters} :=
    horder.columns _ (List.mem_cons_of_mem _ List.mem_cons_self)
  unfold Header.choiceFilters at hfilters
  unfold find at hfilters ⊢
  rw [Header.anyColumn_moved h horder, Header.column_moved h horder,
    Header.cluster_moved h horder List.mem_cons_self]
  cases hlist : (Header.ofRow .choices header).anyColumn ["list_name", "list name"] with
  | error fault => rfl
  | ok list =>
    cases hname : (Header.ofRow .choices header).column "name" with
    | error fault => rfl
    | ok name =>
      cases hlabel : (Header.ofRow .choices header).cluster "label" with
      | error fault => rfl
      | ok label =>
        rw [hlist, hname, hlabel] at hfilters
        have hmoved := filterColumns_moved h horder.injective hfilters
        show Except.ok (ChoicesColumns.mk _ _ _ _) = Except.ok (ChoicesColumns.mk _ _ _ _)
        rw [hmoved]

theorem read_move {row other : Row} (h : row.Moved f other) (columns : ChoicesColumns) :
    (columns.move f).read other = columns.read row := by
  have hfilters : (columns.filters.map (Prod.map f id)).filterMap
      (fun entry => (other.text entry.1).map fun value => (⟨entry.2, value⟩ : ChoiceFilter)) =
      columns.filters.filterMap fun entry => (row.text entry.1).map fun value =>
        ⟨entry.2, value⟩ := by
    rw [List.filterMap_map]
    congr 1
    funext entry
    simp only [Function.comp_apply, Prod.map_fst, Prod.map_snd, h.text, id]
  unfold read move
  simp only [h.number, h.text, columns.label.localized_move h]
  rw [ChoiceRow.mk.injEq]
  exact ⟨rfl, rfl, rfl, rfl, hfilters⟩

end ChoicesColumns

end Questionnaire
