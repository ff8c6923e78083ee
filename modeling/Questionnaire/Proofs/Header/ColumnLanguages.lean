import Questionnaire.Proofs.Form.Worksheets
import Questionnaire.Proofs.Header.Namings

/-!
# Languages of the columns of a cluster

Columns of a cluster with different suffixes should have different languages, so that each keeps its
texts: a row has one text in each language, that of the first column. The languages do differ, but
for one case. A suffix that does not start with a letter is put behind an `L`, and what becomes of
it may stand in another title as it is.

Main definitions:

* `Naming.Clash`: two suffixes of which one is renamed to the other.
* `Cluster.suffix`: the suffix in the title of a column.

Results:

* `Naming.agrees_iff_clash`: different suffixes of one cluster give one name only if they clash.
* `Header.languages_cluster`: the columns with one language, and the texts that are kept.
-/

namespace Questionnaire

/-! ## Suffixes of one cluster -/

namespace Naming

/-- One of the suffixes does not start with a letter and is renamed to the other. -/
def Clash (tail other : String) : Prop := IsLettered tail other ∨ IsLettered other tail

instance (tail other : String) : Decidable (Clash tail other) :=
  inferInstanceAs (Decidable ((_ ∧ _) ∨ (_ ∧ _)))

variable {tails : List String} {tail other : String} {naming otherNaming : Naming} {i j : ℕ}

/-- Among suffixes that do not start with a letter there is no clash. -/
theorem not_clash (htail : Text.trimList tail.toList = tail.toList)
    (hother : Text.trimList other.toList = other.toList)
    (hletter : Text.startsWithLetter tail.toList = false)
    (hletter' : Text.startsWithLetter other.toList = false) : ¬ Clash tail other := by
  rintro (⟨-, rfl⟩ | ⟨-, rfl⟩)
  · rw [startsWithLetter_trim_lettered htail] at hletter'
    cases hletter'
  · rw [startsWithLetter_trim_lettered hother] at hletter
    cases hletter

/-- If no suffix starts with a letter, different columns have different names: either there is one
column, or they are counted. -/
theorem index_eq_of_agrees
    (hnone : (tails.any fun tail => Text.startsWithLetter tail.toList) = false)
    (hi : (ofTails tails)[i]? = some naming) (hj : (ofTails tails)[j]? = some otherNaming)
    (h : naming.Agrees otherNaming) : i = j := by
  obtain ⟨hilt, hi⟩ := List.getElem?_eq_some_iff.1 hi
  obtain ⟨hjlt, hj⟩ := List.getElem?_eq_some_iff.1 hj
  rw [length_ofTails] at hilt hjlt
  match tails with
  | [] => cases hilt
  | [single] =>
    rw [List.length_singleton] at hilt hjlt
    omega
  | first :: second :: rest =>
    have hplaces : ofTails (first :: second :: rest) =
        (List.range (first :: second :: rest).length).map fun index => .place (index + 1) := by
      unfold ofTails
      dsimp only
      rw [hnone]
      rfl
    simp only [hplaces, List.getElem_map, List.getElem_range] at hi hj
    subst hi hj
    exact Nat.succ.inj h

/-- Different suffixes of one cluster give one name only if they clash. -/
theorem agrees_iff_clash (htrimmed : ∀ tail ∈ tails, Text.trimList tail.toList = tail.toList)
    (htail : tails[i]? = some tail) (hi : (ofTails tails)[i]? = some naming)
    (hother : tails[j]? = some other) (hj : (ofTails tails)[j]? = some otherNaming)
    (hne : tail ≠ other) : naming.Agrees otherNaming ↔ Clash tail other := by
  have hm := List.mem_of_getElem? htail
  have hm' := List.mem_of_getElem? hother
  cases hany : tails.any fun tail => Text.startsWithLetter tail.toList with
  | true =>
    rw [ofTails_of_any hany, List.getElem?_map] at hi hj
    rw [htail] at hi
    rw [hother] at hj
    obtain rfl := Option.some.inj hi
    obtain rfl := Option.some.inj hj
    exact or_iff_right hne
  | false =>
    have hletter (tail : String) (hm : tail ∈ tails) :
        Text.startsWithLetter tail.toList = false := by
      simpa using List.any_eq_false.1 hany tail hm
    refine iff_of_false (fun hagrees => hne ?_) ?_
    · obtain rfl := index_eq_of_agrees hany hi hj hagrees
      exact Option.some.inj (htail.symm.trans hother)
    · exact not_clash (htrimmed tail hm) (htrimmed other hm') (hletter tail hm) (hletter other hm')

end Naming

/-! ## Columns -/

namespace Cluster

/-- The suffix in the title of a column, trimmed; nothing behind the stem alone. -/
def suffix (cluster : Cluster) (column : ClusterColumn) : String :=
  (clusterTail? cluster.stem column.title).getD ""

/-- The text of a row in the language of a column is that of the column, unless an earlier column
has the same language. -/
theorem text?_localized_of_forall {cluster : Cluster} {before after : List ClusterColumn}
    {column : ClusterColumn} (hcolumns : cluster.columns = before ++ column :: after)
    (hbefore : ∀ earlier ∈ before, earlier.language ≠ column.language) (row : Row) :
    (cluster.localized row).text? column.language = row.text column.column := by
  have hfound : (cluster.columns.find? fun other => other.language = column.language) =
      some column := by
    refine List.find?_eq_some_iff_append.2 ⟨decide_eq_true rfl, before, after, hcolumns, ?_⟩
    exact fun earlier hm => by simpa using hbefore earlier hm
  rw [text?_localized, hfound]
  rfl

end Cluster

namespace Header

variable {header : Header} {stem : String} {cluster : Cluster}
  (h : header.cluster? stem = some cluster)

include h

/-- What is known of the column at a place of the cluster. -/
theorem getElem?_columns_cluster? {i : ℕ} {column : ClusterColumn}
    (hi : cluster.columns[i]? = some column) :
    ∃ naming, (header.suffixes stem)[i]? = some (cluster.suffix column) ∧
      (Naming.ofTails (header.suffixes stem))[i]? = some naming ∧
      column.language = naming.language := by
  obtain ⟨hstem, hcolumns⟩ := columns_cluster? h
  rw [hcolumns, List.getElem?_map, Option.map_eq_some_iff] at hi
  obtain ⟨⟨⟨index, title, tail⟩, naming⟩, hentry, rfl⟩ := hi
  obtain ⟨htail, hnaming⟩ := List.getElem?_zip_eq_some.1 hentry
  obtain ⟨⟨index', title'⟩, -, hentry⟩ := List.mem_filterMap.1 (List.mem_of_getElem? htail)
  obtain ⟨tail', htail', heq⟩ := Option.map_eq_some_iff.1 hentry
  cases heq
  refine ⟨naming, ?_, hnaming, rfl⟩
  rw [suffixes, List.getElem?_map, htail, Cluster.suffix, hstem, htail']
  rfl

/-- Columns with different suffixes have one language only if the suffixes clash. -/
theorem language_eq_iff_clash {column other : ClusterColumn} (hm : column ∈ cluster.columns)
    (hother : other ∈ cluster.columns) (hne : cluster.suffix column ≠ cluster.suffix other) :
    column.language = other.language ↔
      Naming.Clash (cluster.suffix column) (cluster.suffix other) := by
  obtain ⟨i, hi⟩ := List.mem_iff_getElem?.1 hm
  obtain ⟨j, hj⟩ := List.mem_iff_getElem?.1 hother
  obtain ⟨naming, htail, hnaming, hlanguage⟩ := getElem?_columns_cluster? h hi
  obtain ⟨otherNaming, htail', hnaming', hlanguage'⟩ := getElem?_columns_cluster? h hj
  have htrimmed : ∀ tail ∈ header.suffixes stem, Text.trimList tail.toList = tail.toList :=
    fun _ => trimList_of_mem_suffixes
  have htrim {i : ℕ} {naming : Naming}
      (hi : (Naming.ofTails (header.suffixes stem))[i]? = some naming) : naming.Trimmed := by
    rintro tail rfl
    exact htrimmed tail (Naming.mem_of_suffix_mem_ofTails (List.mem_of_getElem? hi))
  rw [hlanguage, hlanguage', Naming.language_eq_iff (htrim hnaming) (htrim hnaming')]
  exact Naming.agrees_iff_clash htrimmed htail hnaming htail' hnaming' hne

/-- The columns of a cluster stand in order. -/
theorem pairwise_columns_cluster? :
    cluster.columns.Pairwise fun column later => column.column < later.column := by
  have hcolumns : cluster.columns.map ClusterColumn.column = (header.tails stem).map Prod.fst := by
    have hpairs := congrArg (List.map Prod.fst) (map_columns_cluster? h)
    rw [List.map_map, List.map_map] at hpairs
    exact hpairs.trans (map_fst_namings header stem)
  rw [← List.pairwise_map (R := (· < ·)), hcolumns, tails_eq, List.map_map, List.pairwise_map]
  exact (pairwise_titled header).filter _

omit h in
/-- Columns with different suffixes have different languages, unless one of the suffixes is renamed
to the other. If all suffixes differ, a row has the text of each column in the language of this
column, unless the suffix of an earlier one clashes with its own. -/
theorem languages_cluster (h : header.cluster stem = .ok cluster) :
    (∀ column ∈ cluster.columns, ∀ other ∈ cluster.columns,
      cluster.suffix column ≠ cluster.suffix other →
        (column.language = other.language ↔
          Naming.Clash (cluster.suffix column) (cluster.suffix other))) ∧
    ((cluster.columns.map cluster.suffix).Nodup → ∀ row : Row, ∀ column ∈ cluster.columns,
      (∀ earlier ∈ cluster.columns, earlier.column < column.column →
        ¬ Naming.Clash (cluster.suffix earlier) (cluster.suffix column)) →
      (cluster.localized row).text? column.language = row.text column.column) := by
  have hcluster := cluster_eq_ok_iff.1 h
  refine ⟨fun column hm other hother hne => language_eq_iff_clash hcluster hm hother hne,
    fun hnodup row column hm hclash => ?_⟩
  obtain ⟨before, after, hcolumns⟩ := List.append_of_mem hm
  refine Cluster.text?_localized_of_forall hcolumns (fun earlier hbefore hlanguage => ?_) row
  have hearlier : earlier ∈ cluster.columns := by
    rw [hcolumns]
    exact List.mem_append_left _ hbefore
  have hlt : earlier.column < column.column := by
    have hpairwise := pairwise_columns_cluster? hcluster
    rw [hcolumns, List.pairwise_append] at hpairwise
    exact hpairwise.2.2 earlier hbefore column List.mem_cons_self
  have hne : cluster.suffix earlier ≠ cluster.suffix column := by
    rw [hcolumns, List.map_append, List.nodup_append] at hnodup
    exact hnodup.2.2 _ (List.mem_map_of_mem hbefore) _ List.mem_cons_self
  exact hclash earlier hearlier hlt
    ((language_eq_iff_clash hcluster hearlier hm hne).1 hlanguage)

end Header

/-! ## Columns that keep their texts -/

/-- A suffix is renamed, and so is the missing one. -/
def greetingHeader : Header :=
  ⟨.survey, [some "name", some "label::English", some "label::2", some "label", some "label::L 3"]⟩

theorem languages_cluster_greetingHeader :
    ∃ cluster, greetingHeader.cluster "label" = .ok cluster ∧
      cluster.columns.map cluster.suffix = ["English", "2", "", "L 3"] ∧
      cluster.languages = ["English", "L 2", "L", "L 3"].map Language.ofLabel ∧
      ∀ row : Row, ∀ column ∈ cluster.columns,
        (cluster.localized row).text? column.language = row.text column.column := by
  have hcluster : ∃ cluster, greetingHeader.cluster "label" = .ok cluster ∧
      (cluster.columns.map cluster.suffix = ["English", "2", "", "L 3"] ∧
        cluster.languages = ["English", "L 2", "L", "L 3"].map Language.ofLabel ∧
        ∀ column ∈ cluster.columns, ∀ earlier ∈ cluster.columns, earlier.column < column.column →
          ¬ Naming.Clash (cluster.suffix earlier) (cluster.suffix column)) :=
    exists_ok_of_any (by decide +kernel)
  obtain ⟨cluster, hcluster, hsuffixes, hlanguages, hclash⟩ := hcluster
  refine ⟨cluster, hcluster, hsuffixes, hlanguages, fun row column hm => ?_⟩
  refine (Header.languages_cluster hcluster).2 ?_ row column hm (hclash column hm)
  rw [hsuffixes]
  decide

/-! ## A column that loses its texts -/

/-- The suffix `2` is renamed to the suffix in front of it. -/
def clashingHeader : Header := ⟨.survey, [some "label::L 2", some "label::2"]⟩

/-- The two columns have one language, in which the text of the second is not found. -/
theorem languages_clashingHeader :
    ∃ cluster, clashingHeader.cluster "label" = .ok cluster ∧
      cluster.columns.map cluster.suffix = ["L 2", "2"] ∧
      cluster.languages = [.ofLabel "L 2", .ofLabel "L 2"] ∧
      (cluster.localized ⟨2, [some "Hallo", some "Bonjour"]⟩).entries =
        [(.ofLabel "L 2", some "Hallo")] :=
  exists_ok_of_any (by decide +kernel)

end Questionnaire
