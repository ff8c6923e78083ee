import Questionnaire.Proofs.Draft.Workbook
import Questionnaire.Proofs.Language.FirstOccurrences
import Questionnaire.Sheet.Survey

/-!
# Label columns

The worksheets of a draft begin with columns of fixed titles, and behind them there is a label
column for each language. The label columns make up the cluster of labels and no other, and the
label that was written into the cells of a row is read from them.

Results:

* `Header.position?_ofTitles`: a title is found in its first column.
* `Header.cluster?_label`: the cluster of the label columns.
* `localized_cluster?_label`: a label is read from the cells of its row.
-/

namespace Questionnaire

/-! ## Titles -/

namespace Header

/-- A header in which every column has a title. -/
def ofTitles (sheet : SheetKind) (titles : List String) : Header := ⟨sheet, titles.map some⟩

theorem ofRow_titles (sheet : SheetKind) (number : UInt32) {titles : List String}
    (h : ∀ title ∈ titles, Text.Tidy title) :
    ofRow sheet ⟨number, titles.map some⟩ = ofTitles sheet titles := by
  have hcells : (titles.map some).map cellText = titles.map some := by
    rw [List.map_map]
    exact List.map_congr_left fun title hm => h title hm
  rw [ofRow, hcells, ofTitles]

theorem titled_ofTitles (sheet : SheetKind) (titles : List String) :
    (ofTitles sheet titles).titled = titles.zipIdx.map fun (title, column) => (column, title) := by
  rw [titled, ofTitles, List.zipIdx_map, List.filterMap_map]
  exact congrFun List.filterMap_eq_map' titles.zipIdx

theorem position?_ofTitles (sheet : SheetKind) (titles : List String) (title : String) :
    (ofTitles sheet titles).position? title = titles.findIdx? (· = title) := by
  rw [position?, titled_ofTitles, List.findIdx?_eq_fst_find?_zipIdx, List.find?_map, Option.map_map]
  rfl

theorem position?_ofTitles_of_not_mem {sheet : SheetKind} {titles : List String} {title : String}
    (h : title ∉ titles) : (ofTitles sheet titles).position? title = none := by
  rw [position?_ofTitles, List.findIdx?_eq_none_iff]
  intro other hm
  exact decide_eq_false fun heq => h (heq ▸ hm)

theorem tails_ofTitles (sheet : SheetKind) (titles : List String) (stem : String) :
    (ofTitles sheet titles).tails stem = titles.zipIdx.filterMap fun (title, column) =>
      (clusterTail? stem title).map fun tail => (column, title, tail) := by
  rw [tails, titled_ofTitles, List.filterMap_map]
  rfl

theorem cluster?_ofTitles_of_forall {sheet : SheetKind} {titles : List String} {stem : String}
    (h : ∀ title ∈ titles, clusterTail? stem title = none) :
    (ofTitles sheet titles).cluster? stem = none := by
  have htails : (ofTitles sheet titles).tails stem = [] := by
    rw [tails_ofTitles, List.filterMap_eq_nil_iff]
    intro (title, column) hm
    have hnone := h title (List.fst_mem_of_mem_zipIdx hm)
    simp only [hnone, Option.map_none]
  rw [cluster?, htails]

end Header

/-! ## Titles of labels -/

theorem toList_labelTitle (language : String) :
    (labelTitle language).toList = "label::".toList ++ language.toList := by
  rw [labelTitle, String.toList_append]

theorem labelTitle_ne {language title : String}
    (h : Text.dropPrefix? "label::".toList title.toList = none) : labelTitle language ≠ title := by
  rintro rfl
  rw [Text.dropPrefix?_eq_some_iff.2 (toList_labelTitle language)] at h
  cases h

theorem tidy_labelTitle {language : String} (h : Text.Tidy language) :
    Text.Tidy (labelTitle language) := by
  have hlabel : Text.Tidy "label::" := by decide
  have htidy := hlabel.append h ""
  rwa [String.empty_append] at htidy

/-- The title line of a written worksheet, fixed titles first, has tidy titles only. -/
theorem tidy_titles {fixed languages : List String} (hfixed : ∀ title ∈ fixed, Text.Tidy title)
    (hlanguages : ∀ language ∈ languages, Text.Tidy language) :
    ∀ title ∈ fixed ++ languages.map labelTitle, Text.Tidy title := by
  intro title hm
  obtain hm | hm := List.mem_append.1 hm
  · exact hfixed title hm
  · obtain ⟨language, hlanguage, rfl⟩ := List.mem_map.1 hm
    exact tidy_labelTitle (hlanguages language hlanguage)

theorem clusterTail?_label {language : String} (h : Text.Tidy language) :
    clusterTail? "label" (labelTitle language) = some language := by
  have hne : labelTitle language ≠ "label" := labelTitle_ne (by decide)
  have hstem : ("label" ++ clusterSeparator).toList = "label::".toList := by decide
  rw [clusterTail?, if_neg hne, hstem, Text.dropPrefix?_eq_some_iff.2 (toList_labelTitle language)]
  show some (Text.trim language) = some language
  rw [h.trim_eq]

/-- Label columns are in no cluster of a stem that does not begin like theirs. -/
theorem clusterTail?_labelTitle_eq_none {stem : String} (hstem : stem.toList.head? ≠ some 'l')
    (language : String) : clusterTail? stem (labelTitle language) = none := by
  have htitle : (labelTitle language).toList = 'l' :: ("abel::".toList ++ language.toList) :=
    toList_labelTitle language
  have hne : labelTitle language ≠ stem := by
    rintro rfl
    exact hstem (by rw [htitle]; rfl)
  have hdrop : Text.dropPrefix? (stem ++ clusterSeparator).toList (labelTitle language).toList =
      none := by
    rw [String.toList_append, htitle]
    cases hlist : stem.toList with
    | nil => rfl
    | cons c cs =>
      have hc : c ≠ 'l' := by
        rintro rfl
        exact hstem (by rw [hlist]; rfl)
      rw [List.cons_append, Text.dropPrefix?, if_neg hc]
  rw [clusterTail?, if_neg hne, hdrop, Option.map_none]

/-- Languages that begin with letters are shown as they are written. -/
theorem presentableTails_of_startsWithLetter {languages : List String}
    (h : ∀ language ∈ languages, Text.startsWithLetter language.toList = true) :
    presentableTails languages = languages := by
  have hlettered : ∀ language ∈ languages, letteredTail language = language := by
    intro language hm
    rw [letteredTail, if_pos (h language hm)]
  match languages with
  | [] => rfl
  | [language] =>
    have hletter := h language List.mem_cons_self
    have halphanumeric : language.toList.any Text.isAlphanumeric = true := by
      cases hlist : language.toList with
      | nil => rw [hlist] at hletter; cases hletter
      | cons c cs =>
        rw [hlist] at hletter
        have hc : Text.isLetter c = true := hletter
        simp [Text.isAlphanumeric, hc]
    rw [presentableTails, if_pos halphanumeric, hlettered language List.mem_cons_self]
  | first :: second :: others =>
    have hany : (first :: second :: others).any
        (fun tail => Text.startsWithLetter tail.toList) = true := by
      simp [h first List.mem_cons_self]
    show (if (first :: second :: others).any (fun tail => Text.startsWithLetter tail.toList) = true
      then (first :: second :: others).map letteredTail else _) = _
    rw [if_pos hany]
    exact (List.map_congr_left hlettered).trans (List.map_id' _)

/-! ## The cluster of labels -/

/-- The cluster of the label columns, of which the first is the given column. -/
def labelCluster (languages : List String) (first : Nat) : Cluster where
  stem := "label"
  columns := (languages.zipIdx first).map fun (language, column) =>
    ⟨labelTitle language, language, column⟩

theorem filterMap_clusterTail?_label {languages : List String}
    (h : ∀ language ∈ languages, Text.Tidy language) (first : Nat) :
    ((languages.map labelTitle).zipIdx first).filterMap (fun (title, column) =>
        (clusterTail? "label" title).map fun tail => (column, title, tail)) =
      (languages.zipIdx first).map fun (language, column) =>
        (column, labelTitle language, language) := by
  induction languages generalizing first with
  | nil => rfl
  | cons language languages ih =>
    have htail := clusterTail?_label (h language List.mem_cons_self)
    have ih := ih (fun other hm => h other (List.mem_cons_of_mem _ hm)) (first + 1)
    rw [List.map_cons, List.zipIdx_cons, List.zipIdx_cons, List.map_cons, ← ih]
    simp only [List.filterMap_cons, htail, Option.map_some]

theorem Header.tails_label (sheet : SheetKind) {fixed languages : List String}
    (hfixed : ∀ title ∈ fixed, clusterTail? "label" title = none)
    (h : ∀ language ∈ languages, Text.Tidy language) :
    (ofTitles sheet (fixed ++ languages.map labelTitle)).tails "label" =
      (languages.zipIdx fixed.length).map fun (language, column) =>
        (column, labelTitle language, language) := by
  have hnone : fixed.zipIdx.filterMap (fun (title, column) =>
      (clusterTail? "label" title).map fun tail => (column, title, tail)) = [] := by
    rw [List.filterMap_eq_nil_iff]
    intro (title, column) hm
    simp only [hfixed title (List.fst_mem_of_mem_zipIdx hm), Option.map_none]
  rw [tails_ofTitles, List.zipIdx_append, List.filterMap_append, hnone, List.nil_append,
    Nat.zero_add, filterMap_clusterTail?_label h]

theorem Header.cluster?_label (sheet : SheetKind) {fixed languages : List String}
    (hfixed : ∀ title ∈ fixed, clusterTail? "label" title = none) (h : AreLanguages languages) :
    (ofTitles sheet (fixed ++ languages.map labelTitle)).cluster? "label" =
      if languages = [] then none else some (labelCluster languages fixed.length) := by
  have htails := tails_label sheet hfixed h.tidy
  generalize hfound : (languages.zipIdx fixed.length).map (fun (language, column) =>
    (column, labelTitle language, language)) = found at htails
  have hlanguages : found.map (fun entry => entry.2.2) = languages := by
    rw [← hfound, List.map_map]
    exact List.zipIdx_map_fst _ _
  have hzip : found.zip languages = (languages.zipIdx fixed.length).map fun (language, column) =>
      ((column, labelTitle language, language), language) := by
    have hself := congrArg (found.zip ·) (List.zipIdx_map_fst fixed.length languages)
    rw [← hself, ← hfound]
    exact List.zip_map'
  rw [cluster?, htails]
  cases found with
  | nil =>
    have hnil : languages = [] := hlanguages.symm
    rw [if_pos hnil]
  | cons entry rest =>
    have hne : languages ≠ [] := by
      rw [← hlanguages]
      exact List.cons_ne_nil _ _
    simp only [hlanguages, presentableTails_of_startsWithLetter h.startsWithLetter, hzip,
      List.map_map, labelCluster, if_neg hne]
    rfl

/-! ## Labels of rows -/

theorem nodup_of_writtenIn {label : Localized} {languages : List String}
    (h : label.WrittenIn languages) (hnodup : languages.Nodup) :
    (label.entries.map Prod.fst).Nodup := by
  rw [h.languages]
  exact List.Pairwise.map Language.ofLabel (fun _ _ hne heq => hne (ofLabel_injective heq)) hnodup

/-- The entries of the label columns, when the cells of the label stand from the first of them. -/
theorem labelEntries_eq {entries : List (Language × Option String)} {languages : List String}
    (hlanguages : entries.map Prod.fst = languages.map Language.ofLabel)
    (htidy : ∀ entry ∈ entries, TidyIfPresent entry.2) {row : Row} {first : Nat}
    (hcells : row.cells.drop first = entries.map fun entry => some (written entry.2)) :
    (languages.zipIdx first).map (fun (language, column) =>
      (Language.ofLabel language, row.text column)) = entries := by
  induction entries generalizing languages first with
  | nil =>
    obtain rfl := List.map_eq_nil_iff.1 hlanguages.symm
    rfl
  | cons entry entries ih =>
    cases languages with
    | nil => cases hlanguages
    | cons language languages =>
      obtain ⟨hlanguage, hlanguages⟩ := List.cons.inj hlanguages
      have hcell : row.cells[first]? = some (some (written entry.2)) := by
        rw [← List.head?_drop, hcells]
        rfl
      have hrest : row.cells.drop (first + 1) =
          entries.map fun entry => some (written entry.2) := by
        rw [← List.tail_drop, hcells]
        rfl
      have htext : row.text first = entry.2 := by
        rw [Row.text, hcell]
        exact cellText_written (htidy entry List.mem_cons_self)
      have ih := ih hlanguages (fun other hm => htidy other (List.mem_cons_of_mem _ hm)) hrest
      rw [List.zipIdx_cons, List.map_cons, ih]
      show (Language.ofLabel language, row.text first) :: entries = entry :: entries
      rw [htext, ← hlanguage]

theorem localized_labelCluster {label : Localized} {languages : List String}
    (h : label.WrittenIn languages) (hnodup : languages.Nodup) {row : Row} {first : Nat}
    (hcells : row.cells.drop first = label.cells.map some) :
    (labelCluster languages first).localized row = label := by
  have hcells : row.cells.drop first = label.entries.map fun entry => some (written entry.2) := by
    rw [hcells, Localized.cells, List.map_map]
    rfl
  have hentries := labelEntries_eq h.languages h.tidy hcells
  rw [Cluster.localized, labelCluster, List.map_map]
  show Localized.ofList ((languages.zipIdx first).map fun (language, column) =>
    (Language.ofLabel language, row.text column)) = label
  rw [hentries, Localized.ofList, Localized.firstEntries_of_nodup (nodup_of_writtenIn h hnodup)]

theorem localized_cluster?_label {label : Localized} {languages : List String}
    (h : label.WrittenIn languages) (hnodup : languages.Nodup) {row : Row} {first : Nat}
    (hcells : row.cells.drop first = label.cells.map some) :
    SurveyColumns.localized (if languages = [] then none else some (labelCluster languages first))
      row = label := by
  by_cases hnil : languages = []
  · subst hnil
    have hentries : label.entries = [] := List.map_eq_nil_iff.1 h.languages
    obtain ⟨entries⟩ := label
    obtain rfl : entries = [] := hentries
    rfl
  · rw [if_neg hnil]
    exact localized_labelCluster h hnodup hcells

end Questionnaire
