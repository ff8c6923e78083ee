import Questionnaire.Proofs.Form.Requirements
import Questionnaire.Proofs.Form.Worksheets
import Questionnaire.Proofs.Header.ColumnLanguages

/-!
# Cells of a choice

A choice is read from the titled columns of its row. Each of them is used once: for the list, for
the name, for the label in one language, or else as a filter with the title of the column. So the
texts of a choice are the texts in the titled columns, none of which is lost or read twice.

Main definitions:

* `ChoiceUse`, `ChoicesSheet.use`: what a column is used for.
* `ChoicesSheet.titledCells`: the texts of a row in the titled columns, with their uses.
* `ChoiceRow.cells`: the texts of a choice, with their uses.

Results:

* `ChoicesColumns.perm_titled`: the columns of the choices are the titled columns.
* `ChoicesSheet.keepsCells_ofWorksheet`: the texts of a choice are those of its row.
-/

namespace Questionnaire

/-! ## First columns -/

namespace Header

variable {header : Header} {column : ℕ} {title : String}

/-- The column is the first with the title. -/
def IsFirst (header : Header) (title : String) (column : ℕ) : Prop :=
  (column, title) ∈ header.titled ∧ ∀ earlier < column, (earlier, title) ∉ header.titled

/-- A column has one title. -/
theorem title_unique {other : String} (h : (column, title) ∈ header.titled)
    (hother : (column, other) ∈ header.titled) : title = other := by
  rw [mem_titled_iff] at h hother
  exact Option.some.inj (Option.some.inj (h.symm.trans hother))

/-- A column is among the titled columns once. -/
theorem filter_column (h : (column, title) ∈ header.titled) :
    (header.titled.filter fun entry => entry.1 = column) = [(column, title)] := by
  refine List.perm_singleton.1 ((List.perm_ext_iff_of_nodup
    ((nodup_of_pairwise (pairwise_titled header)).filter _) (List.nodup_singleton _)).2 ?_)
  rintro ⟨other, found⟩
  rw [List.mem_filter, List.mem_singleton]
  constructor
  · rintro ⟨hm, heq⟩
    obtain rfl : other = column := of_decide_eq_true heq
    rw [title_unique h hm]
  · rintro heq
    obtain ⟨rfl, rfl⟩ := Prod.mk.inj heq
    exact ⟨h, decide_eq_true rfl⟩

theorem isFirst_of_position? (h : header.position? title = some column) :
    header.IsFirst title column := by
  obtain ⟨⟨column, found⟩, hfound, rfl⟩ := Option.map_eq_some_iff.1 h
  obtain ⟨htitle, before, after, htitled, hbefore⟩ := List.find?_eq_some_iff_append.1 hfound
  obtain rfl : found = title := of_decide_eq_true htitle
  have hpairwise := pairwise_titled header
  rw [htitled, List.pairwise_append, List.pairwise_cons] at hpairwise
  refine ⟨htitled ▸ List.mem_append_right _ List.mem_cons_self, fun earlier hlt hm => ?_⟩
  rw [htitled, List.mem_append, List.mem_cons] at hm
  rcases hm with hm | heq | hm
  · simpa using hbefore _ hm
  · exact absurd (congrArg Prod.fst heq) (Nat.ne_of_lt hlt)
  · exact absurd (hpairwise.2.1.1 _ hm) (Nat.lt_asymm hlt)

theorem position?_eq_none_iff :
    header.position? title = none ↔ ∀ column, (column, title) ∉ header.titled := by
  rw [position?, Option.map_eq_none_iff, List.find?_eq_none]
  constructor
  · exact fun h column hm => h _ hm (decide_eq_true rfl)
  · rintro h ⟨column, other⟩ hm htitle
    obtain rfl : other = title := of_decide_eq_true htitle
    exact h column hm

theorem position?_eq_some_iff :
    header.position? title = some column ↔ header.IsFirst title column := by
  refine ⟨isFirst_of_position?, fun ⟨hm, hfirst⟩ => ?_⟩
  cases hfound : header.position? title with
  | none => exact absurd hm (position?_eq_none_iff.1 hfound column)
  | some found =>
    obtain ⟨hm', hfirst'⟩ := isFirst_of_position? hfound
    rcases Nat.lt_trichotomy found column with hlt | rfl | hlt
    · exact absurd hm' (hfirst found hlt)
    · rfl
    · exact absurd hm (hfirst' column hlt)

end Header

/-- The members of one kind and the others, within a kind that includes the first. -/
theorem perm_filter_and {α : Type} (members : List α) {p s : α → Bool}
    (h : ∀ a ∈ members, p a = true → s a = true) :
    (members.filter p ++ members.filter fun a => s a && !p a).Perm (members.filter s) := by
  have hperm := List.filter_append_perm p (members.filter s)
  rw [List.filter_filter, List.filter_filter] at hperm
  have hkind : members.filter (fun a => p a && s a) = members.filter p :=
    List.filter_congr fun a hm => by
      cases hp : p a with
      | false => rfl
      | true => rw [h a hm hp, Bool.and_self]
  rw [hkind] at hperm
  simp only [Bool.and_comm] at hperm ⊢
  exact hperm

theorem filterMap_singleton {α β : Type} (f : α → Option β) (a : α) :
    [a].filterMap f = (f a).toList := by
  rw [List.filterMap_cons, List.filterMap_nil]
  cases f a <;> rfl

/-! ## Uses -/

/-- What a column of the choices is used for. -/
inductive ChoiceUse where
  | list
  | name
  | label (language : Language)
  | filter (title : String)
  deriving DecidableEq

namespace ChoicesSheet

/-- What a titled column is used for. -/
def use (sheet : ChoicesSheet) (column : ℕ) (title : String) : ChoiceUse :=
  if sheet.header.anyColumn? ["list_name", "list name"] = some column then .list
  else if sheet.header.position? "name" = some column then .name
  else match sheet.label.languageAt? column with
    | some language => .label language
    | none => .filter title

/-- The uses of a column as its title and its place tell them. -/
structure UsedByTitle (sheet : ChoicesSheet) (column : ℕ) (title : String) : Prop where
  list : sheet.use column title = .list ↔ sheet.header.IsFirst "list_name" column ∨
    (∀ other, (other, "list_name") ∉ sheet.header.titled) ∧ sheet.header.IsFirst "list name" column
  name : sheet.use column title = .name ↔ sheet.header.IsFirst "name" column
  label : (∃ language, sheet.use column title = .label language) ↔
    title = "label" ∨ ∃ suffix, title = "label" ++ "::" ++ suffix
  language : ∀ language, sheet.use column title = .label language →
    sheet.label.languageAt? column = some language
  filter : ∀ other, sheet.use column title = .filter other → other = title

/-- The text of a row in a titled column, with the use of the column. -/
def cellAt? (sheet : ChoicesSheet) (row : Row) (entry : ℕ × String) : Option (ChoiceUse × String) :=
  (row.text entry.1).map (sheet.use entry.1 entry.2, ·)

/-- The texts of a row in the titled columns, in order, with their uses. -/
def titledCells (sheet : ChoicesSheet) (row : Row) : List (ChoiceUse × String) :=
  sheet.header.titled.filterMap (sheet.cellAt? row)

end ChoicesSheet

namespace ChoiceRow

/-- The texts of the label in the languages in which there is one. -/
def labelCells (choice : ChoiceRow) : List (ChoiceUse × String) :=
  choice.label.entries.filterMap fun (language, text) => text.map (.label language, ·)

def filterCells (choice : ChoiceRow) : List (ChoiceUse × String) :=
  choice.filters.map fun filter => (.filter filter.name, filter.value)

/-- The texts of a choice with their uses. -/
def cells (choice : ChoiceRow) : List (ChoiceUse × String) :=
  (choice.list.map (.list, ·)).toList ++ (choice.name.map (.name, ·)).toList ++
    choice.labelCells ++ choice.filterCells

end ChoiceRow

/-- The texts of the choice are those of the row in the titled columns. Those of the label and those
of the filters stand in the order of the columns. -/
structure ChoicesSheet.KeepsCells (sheet : ChoicesSheet) (row : Row) (choice : ChoiceRow) :
    Prop where
  number : choice.number = row.number
  cells : choice.cells.Perm (sheet.titledCells row)
  labels : choice.labelCells.Sublist (sheet.titledCells row)
  filters : choice.filterCells.Sublist (sheet.titledCells row)

/-! ## Label columns -/

namespace Cluster

theorem isSome_languageAt? (cluster : Cluster) (column : ℕ) :
    (cluster.languageAt? column).isSome = cluster.hasColumn column := by
  rw [languageAt?, Option.isSome_map, List.isSome_find?]
  rfl

theorem languageAt?_eq_none {cluster : Cluster} {column : ℕ}
    (h : cluster.hasColumn column = false) : cluster.languageAt? column = none := by
  rw [← Option.not_isSome_iff_eq_none, isSome_languageAt?, h]
  exact Bool.false_ne_true

end Cluster

namespace Header

variable {header : Header} {stem : String} {cluster : Cluster}
  (h : header.cluster? stem = some cluster)

include h

/-- The columns of a cluster are the titled columns that belong to its stem. -/
theorem map_title_columns_cluster? :
    (cluster.columns.map fun column => (column.column, column.title)) =
      header.titled.filter fun entry => (clusterTail? stem entry.2).isSome := by
  have hlength : (header.tails stem).length ≤
      (Naming.ofTails (header.suffixes stem)).length := by
    rw [Naming.length_ofTails, suffixes, List.length_map]
  have hentries : (cluster.columns.map fun column => (column.column, column.title)) =
      ((((header.tails stem).zip (Naming.ofTails (header.suffixes stem))).map Prod.fst).map
        fun entry => (entry.1, entry.2.1)) := by
    rw [(columns_cluster? h).2, List.map_map, List.map_map]
    rfl
  rw [hentries, List.map_fst_zip hlength, tails_eq, List.map_map]
  exact List.map_id' _

theorem hasColumn_iff {column : ℕ} {title : String} (hm : (column, title) ∈ header.titled) :
    cluster.hasColumn column = true ↔ (clusterTail? stem title).isSome = true := by
  have hmem {title : String} : (column, title) ∈
      (cluster.columns.map fun column => (column.column, column.title)) ↔
        (column, title) ∈ header.titled ∧ (clusterTail? stem title).isSome = true := by
    rw [map_title_columns_cluster? h, List.mem_filter]
  unfold Cluster.hasColumn
  rw [List.any_eq_true]
  constructor
  · rintro ⟨other, hother, heq⟩
    obtain rfl : other.column = column := of_decide_eq_true heq
    obtain ⟨hm', htail⟩ := hmem.1 (List.mem_map.2 ⟨other, hother, rfl⟩)
    rwa [title_unique hm hm']
  · intro htail
    obtain ⟨other, hother, heq⟩ := List.mem_map.1 (hmem.2 ⟨hm, htail⟩)
    exact ⟨other, hother, decide_eq_true (congrArg Prod.fst heq)⟩

/-- A column of a cluster is found at its place. -/
theorem languageAt?_of_mem_columns {column : ClusterColumn} (hm : column ∈ cluster.columns) :
    cluster.languageAt? column.column = some column.language := by
  obtain ⟨before, after, hcolumns⟩ := List.append_of_mem hm
  have hpairwise := pairwise_columns_cluster? h
  rw [hcolumns, List.pairwise_append] at hpairwise
  have hfound : (cluster.columns.find? fun other => other.column = column.column) =
      some column := by
    refine List.find?_eq_some_iff_append.2 ⟨decide_eq_true rfl, before, after, hcolumns, ?_⟩
    intro earlier hearlier
    simpa using Nat.ne_of_lt (hpairwise.2.2 earlier hearlier column List.mem_cons_self)
  rw [Cluster.languageAt?, hfound]
  rfl

end Header

/-! ## The columns of the choices -/

namespace ChoicesColumns

variable {header : Header} {columns : ChoicesColumns}

/-- The list is read from a column with one of two titles. -/
theorem exists_title_list (h : find header = .ok columns) :
    ∃ title ∈ ["list_name", "list name"], (columns.list, title) ∈ header.titled := by
  obtain ⟨title, htitle, hposition⟩ := List.exists_of_findSome?_eq_some (find_eq_ok_iff.1 h).1
  exact ⟨title, htitle, (Header.position?_eq_some_iff.1 hposition).1⟩

/-- No column is used for two of the list, the name and the label. -/
structure Disjoint (columns : ChoicesColumns) : Prop where
  list_name : columns.list ≠ columns.name
  list_label : columns.label.hasColumn columns.list = false
  name_label : columns.label.hasColumn columns.name = false

theorem disjoint_of_find (h : find header = .ok columns) : columns.Disjoint := by
  obtain ⟨title, htitle, hlist⟩ := exists_title_list h
  obtain ⟨-, hname, hlabel, -⟩ := find_eq_ok_iff.1 h
  have hname := (Header.position?_eq_some_iff.1 hname).1
  refine ⟨fun heq => ?_, ?_, ?_⟩
  · rw [heq] at hlist
    rw [Header.title_unique hlist hname] at htitle
    exact absurd htitle (by decide)
  · rw [Bool.eq_false_iff, ne_eq, Header.hasColumn_iff hlabel hlist]
    exact (by decide : ∀ title ∈ ["list_name", "list name"],
      ¬ (clusterTail? "label" title).isSome = true) title htitle
  · rw [Bool.eq_false_iff, ne_eq, Header.hasColumn_iff hlabel hname]
    decide

/-- The columns of the choices are the titled columns. -/
theorem perm_titled (h : find header = .ok columns) {title : String}
    (hlist : (columns.list, title) ∈ header.titled) :
    ([(columns.list, title)] ++ ([(columns.name, "name")] ++
      (columns.label.columns.map (fun column => (column.column, column.title)) ++
        columns.filters))).Perm header.titled := by
  have hdisjoint := disjoint_of_find h
  obtain ⟨-, hname, hlabel, hfilters⟩ := find_eq_ok_iff.1 h
  have hlabels : columns.label.columns.map (fun column => (column.column, column.title)) =
      header.titled.filter fun entry => columns.label.hasColumn entry.1 := by
    rw [Header.map_title_columns_cluster? hlabel]
    exact List.filter_congr fun entry hm =>
      (Bool.eq_iff_iff.2 (Header.hasColumn_iff hlabel hm)).symm
  have hfilters : columns.filters = header.titled.filter fun entry =>
      (!decide (entry.1 = columns.list) && !decide (entry.1 = columns.name)) &&
        !columns.label.hasColumn entry.1 := by
    rw [hfilters, filterColumns]
    simp only [ne_eq, decide_not]
  -- the filters are what is left when the label, the name and the list are taken out in turn
  have hrest : (columns.label.columns.map (fun column => (column.column, column.title)) ++
      columns.filters).Perm (header.titled.filter fun entry =>
        !decide (entry.1 = columns.list) && !decide (entry.1 = columns.name)) := by
    rw [hlabels, hfilters]
    refine perm_filter_and header.titled fun entry _ hhas => ?_
    rw [Bool.and_eq_true, Bool.not_eq_true', Bool.not_eq_true', decide_eq_false_iff_not,
      decide_eq_false_iff_not]
    refine ⟨fun heq => ?_, fun heq => ?_⟩
    · rw [heq, hdisjoint.list_label] at hhas
      cases hhas
    · rw [heq, hdisjoint.name_label] at hhas
      cases hhas
  have hnames : ([(columns.name, "name")] ++ header.titled.filter fun entry =>
      !decide (entry.1 = columns.list) && !decide (entry.1 = columns.name)).Perm
        (header.titled.filter fun entry => !decide (entry.1 = columns.list)) := by
    rw [← Header.filter_column (Header.position?_eq_some_iff.1 hname).1]
    refine perm_filter_and header.titled fun entry _ heq => ?_
    rw [Bool.not_eq_true', decide_eq_false_iff_not, of_decide_eq_true heq]
    exact hdisjoint.list_name.symm
  refine (((hrest.append_left _).trans hnames).append_left _).trans ?_
  rw [← Header.filter_column hlist]
  exact List.filter_append_perm _ _

/-- What stands in a column without a title is not read. -/
theorem read_congr (h : find header = .ok columns) {row other : Row}
    (hnumber : other.number = row.number)
    (htitled : ∀ column title, (column, title) ∈ header.titled →
      other.text column = row.text column) : columns.read other = columns.read row := by
  obtain ⟨title, -, hlist⟩ := exists_title_list h
  obtain ⟨-, hname, hcluster, hfilters⟩ := find_eq_ok_iff.1 h
  have hlabel : columns.label.localized other = columns.label.localized row := by
    refine congrArg Localized.ofList (List.map_congr_left fun column hm => ?_)
    have hentry : (column.column, column.title) ∈ header.titled.filter fun entry =>
        (clusterTail? "label" entry.2).isSome := by
      rw [← Header.map_title_columns_cluster? hcluster]
      exact List.mem_map.2 ⟨column, hm, rfl⟩
    rw [htitled _ _ (List.mem_filter.1 hentry).1]
  have hvalues : columns.filters.filterMap (fun entry =>
      (other.text entry.1).map fun value => (⟨entry.2, value⟩ : ChoiceFilter)) =
      columns.filters.filterMap fun entry => (row.text entry.1).map fun value =>
        ⟨entry.2, value⟩ := by
    refine List.filterMap_congr fun entry hm => ?_
    rw [hfilters] at hm
    rw [htitled _ _ (List.mem_filter.1 hm).1]
  unfold read
  rw [ChoiceRow.mk.injEq]
  exact ⟨hnumber, htitled _ _ hlist, htitled _ _ (Header.position?_eq_some_iff.1 hname).1, hlabel,
    hvalues⟩

end ChoicesColumns

/-! ## The uses of the columns -/

theorem Header.anyColumn?_pair_eq_some_iff {header : Header} {title synonym : String} {column : ℕ} :
    header.anyColumn? [title, synonym] = some column ↔ header.IsFirst title column ∨
      (∀ other, (other, title) ∉ header.titled) ∧ header.IsFirst synonym column := by
  rw [← position?_eq_some_iff, ← position?_eq_some_iff, ← position?_eq_none_iff]
  unfold anyColumn?
  rw [List.findSome?_cons, List.findSome?_cons, List.findSome?_nil]
  cases header.position? title with
  | none => cases header.position? synonym <;> simp
  | some found => simp

namespace ChoicesSheet

variable {sheet : ChoicesSheet} {columns : ChoicesColumns}
  (h : ChoicesColumns.find sheet.header = .ok columns) (hlabel : sheet.label = columns.label)
  {column : ℕ} {title : String}

include h hlabel

theorem use_eq (column : ℕ) (title : String) : sheet.use column title =
    if column = columns.list then .list
    else if column = columns.name then .name
    else match columns.label.languageAt? column with
      | some language => .label language
      | none => .filter title := by
  obtain ⟨hlist, hname, -, -⟩ := ChoicesColumns.find_eq_ok_iff.1 h
  unfold use
  simp only [hlist, hname, hlabel, Option.some.injEq, eq_comm]

theorem use_eq_list_iff : sheet.use column title = .list ↔ column = columns.list := by
  rw [use_eq h hlabel]
  split
  · rename_i heq
    exact iff_of_true rfl heq
  · rename_i hne
    refine iff_of_false (fun huse => ?_) hne
    split at huse
    · cases huse
    · split at huse <;> cases huse

theorem use_eq_name_iff : sheet.use column title = .name ↔ column = columns.name := by
  rw [use_eq h hlabel]
  split
  · rename_i heq
    rw [heq]
    exact iff_of_false ChoiceUse.noConfusion (ChoicesColumns.disjoint_of_find h).list_name
  · split
    · rename_i heq
      exact iff_of_true rfl heq
    · rename_i hne
      refine iff_of_false (fun huse => ?_) hne
      split at huse <;> cases huse

theorem use_eq_label_iff {language : Language} : sheet.use column title = .label language ↔
    columns.label.languageAt? column = some language := by
  have hdisjoint := ChoicesColumns.disjoint_of_find h
  rw [use_eq h hlabel]
  split
  · rename_i heq
    rw [heq, Cluster.languageAt?_eq_none hdisjoint.list_label]
    exact iff_of_false ChoiceUse.noConfusion (Option.some_ne_none language).symm
  · split
    · rename_i heq
      rw [heq, Cluster.languageAt?_eq_none hdisjoint.name_label]
      exact iff_of_false ChoiceUse.noConfusion (Option.some_ne_none language).symm
    · split <;> simp [*]

theorem use_filter (hm : (column, title) ∈ columns.filters) :
    sheet.use column title = .filter title := by
  obtain ⟨-, -, -, hfilters⟩ := ChoicesColumns.find_eq_ok_iff.1 h
  rw [hfilters, ChoicesColumns.filterColumns, List.mem_filter] at hm
  simp only [Bool.and_eq_true, decide_eq_true_eq, Bool.not_eq_true'] at hm
  obtain ⟨-, ⟨hlist, hname⟩, hcolumn⟩ := hm
  rw [use_eq h hlabel, if_neg hlist, if_neg hname, Cluster.languageAt?_eq_none hcolumn]

theorem eq_title_of_use {other : String} (huse : sheet.use column title = .filter other) :
    other = title := by
  rw [use_eq h hlabel] at huse
  split at huse
  · cases huse
  · split at huse
    · cases huse
    · split at huse
      · cases huse
      · exact (ChoiceUse.filter.inj huse).symm

theorem usedByTitle (hm : (column, title) ∈ sheet.header.titled) :
    sheet.UsedByTitle column title := by
  obtain ⟨hlist, hname, hcluster, -⟩ := ChoicesColumns.find_eq_ok_iff.1 h
  refine ⟨?_, ?_, ?_, fun language huse => ?_, fun other huse => ?_⟩
  · rw [use_eq_list_iff h hlabel, ← Header.anyColumn?_pair_eq_some_iff, hlist, Option.some_inj,
      eq_comm]
  · rw [use_eq_name_iff h hlabel, ← Header.position?_eq_some_iff, hname, Option.some_inj, eq_comm]
  · simp only [use_eq_label_iff h hlabel]
    rw [← Option.isSome_iff_exists, Cluster.isSome_languageAt?, Header.hasColumn_iff hcluster hm,
      clusterTail?_isSome_iff]
  · rw [hlabel, ← use_eq_label_iff h hlabel]
    exact huse
  · exact eq_title_of_use h hlabel huse

/-! ## The cells of a row -/

theorem labelCells_read (hlanguages : columns.label.languages.Nodup) (row : Row) :
    (columns.read row).labelCells =
      (columns.label.columns.map fun column => (column.column, column.title)).filterMap
        (sheet.cellAt? row) := by
  obtain ⟨-, -, hcluster, -⟩ := ChoicesColumns.find_eq_ok_iff.1 h
  have hkeys : ((columns.label.columns.map fun column =>
      (column.language, row.text column.column)).map Prod.fst).Nodup := by
    rw [List.map_map]
    exact hlanguages
  have hentries : (columns.label.localized row).entries = columns.label.columns.map fun column =>
      (column.language, row.text column.column) := Localized.firstEntries_of_nodup hkeys
  show List.filterMap _ (columns.label.localized row).entries = _
  rw [hentries, List.filterMap_map, List.filterMap_map]
  refine List.filterMap_congr fun column hm => ?_
  have huse : sheet.use column.column column.title = .label column.language :=
    (use_eq_label_iff h hlabel).2 (Header.languageAt?_of_mem_columns hcluster hm)
  simp only [Function.comp_apply, cellAt?, huse]

theorem filterCells_read (row : Row) :
    (columns.read row).filterCells = columns.filters.filterMap (sheet.cellAt? row) := by
  show List.map _ (List.filterMap _ _) = _
  rw [List.map_filterMap]
  refine List.filterMap_congr fun ⟨column, title⟩ hm => ?_
  simp only [cellAt?, use_filter h hlabel hm, Option.map_map]
  rfl

theorem keepsCells_read (hlanguages : columns.label.languages.Nodup) (row : Row) :
    sheet.KeepsCells row (columns.read row) := by
  obtain ⟨title, -, hlist⟩ := ChoicesColumns.exists_title_list h
  obtain ⟨-, -, hcluster, hfilters⟩ := ChoicesColumns.find_eq_ok_iff.1 h
  have hlabelCells := labelCells_read h hlabel hlanguages row
  have hfilterCells := filterCells_read h hlabel row
  refine ⟨rfl, ?_, ?_, ?_⟩
  · have hperm := (ChoicesColumns.perm_titled h hlist).filterMap (sheet.cellAt? row)
    have hlistUse : sheet.use columns.list title = .list := (use_eq_list_iff h hlabel).2 rfl
    have hnameUse : sheet.use columns.name "name" = .name := (use_eq_name_iff h hlabel).2 rfl
    rw [List.filterMap_append, List.filterMap_append, List.filterMap_append, ← hlabelCells,
      ← hfilterCells, filterMap_singleton, filterMap_singleton, cellAt?, cellAt?, hlistUse,
      hnameUse] at hperm
    rw [ChoiceRow.cells, List.append_assoc, List.append_assoc]
    exact hperm
  · rw [hlabelCells, Header.map_title_columns_cluster? hcluster]
    exact List.filter_sublist.filterMap _
  · rw [hfilterCells, hfilters]
    exact List.filter_sublist.filterMap _

omit h hlabel in
/-- The titled columns of the choices are used once each, as their titles and places tell, and the
texts of a choice are those of its row in these columns. What stands in other columns does not
count. -/
theorem keepsCells_ofWorksheet {worksheet : Worksheet} (h : ofWorksheet worksheet = .ok sheet)
    (hlanguages : sheet.label.languages.Nodup) :
    (∀ column title, (column, title) ∈ sheet.header.titled → sheet.UsedByTitle column title) ∧
    ∃ table columns, worksheet.table .choices = .ok table ∧ sheet.header = table.header ∧
      sheet.rows = table.content.map (ChoicesColumns.read columns) ∧
      (∀ row, sheet.KeepsCells row (columns.read row)) ∧
      ∀ row other : Row, other.number = row.number →
        (∀ column title, (column, title) ∈ sheet.header.titled →
          other.text column = row.text column) → columns.read other = columns.read row := by
  obtain ⟨table, columns, htable, hfind, rfl⟩ := ofWorksheet_eq_ok_iff.1 h
  refine ⟨fun column title hm => usedByTitle hfind rfl hm, table, columns, htable, rfl, rfl,
    fun row => keepsCells_read hfind rfl hlanguages row, fun row other hnumber htitled =>
    ChoicesColumns.read_congr hfind hnumber htitled⟩

end ChoicesSheet

/-! ## Choices with titles that are repeated -/

/-- Titles are missing, repeated or spelt twice, and rows are longer or shorter than the header. -/
def toolsWorksheet : Worksheet :=
  .ofTexts "choices"
    [["name", "list name", "list_name", "label::English", "", "name", "size", "label::2", "size"],
      ["saw", "wood", "tools", " A saw ", "hidden", "sierra", "1", "Une scie", "2", "beyond"],
      ["axe", "", "tools", "", "", "", "", "Une hache"],
      ["", "metal"]]

def toolsCells : List (List (ChoiceUse × String)) :=
  [[(.list, "tools"), (.name, "saw"), (.label (.ofLabel "English"), "A saw"),
      (.label (.ofLabel "L 2"), "Une scie"), (.filter "list name", "wood"),
      (.filter "name", "sierra"), (.filter "size", "1"), (.filter "size", "2")],
    [(.list, "tools"), (.name, "axe"), (.label (.ofLabel "L 2"), "Une hache")],
    [(.filter "list name", "metal")]]

theorem keepsCells_toolsWorksheet :
    ∃ sheet, ChoicesSheet.ofWorksheet toolsWorksheet = .ok sheet ∧
      sheet.label.languages.Nodup ∧ sheet.rows.map ChoiceRow.cells = toolsCells ∧
      ∃ table columns, toolsWorksheet.table .choices = .ok table ∧
        sheet.rows = table.content.map (ChoicesColumns.read columns) ∧
        ∀ row, sheet.KeepsCells row (columns.read row) := by
  have hsheet : ∃ sheet, ChoicesSheet.ofWorksheet toolsWorksheet = .ok sheet ∧
      (sheet.label.languages.Nodup ∧ sheet.rows.map ChoiceRow.cells = toolsCells) :=
    exists_ok_of_any (by decide +kernel)
  obtain ⟨sheet, hsheet, hlanguages, hcells⟩ := hsheet
  obtain ⟨-, table, columns, htable, -, hrows, hkeeps, -⟩ :=
    ChoicesSheet.keepsCells_ofWorksheet hsheet hlanguages
  exact ⟨sheet, hsheet, hlanguages, hcells, table, columns, htable, hrows, hkeeps⟩

end Questionnaire
