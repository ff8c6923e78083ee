import Questionnaire.Header.Cluster
import Questionnaire.Proofs.Language.FirstOccurrences
import Questionnaire.Proofs.Layout.MovedColumns
import Questionnaire.Proofs.Text.Tidy

/-!
# Namings

The language of a column is named after the suffix of its title, but not always: the only column of
a cluster may have no suffix to speak of, and several columns without a proper one are counted. What
a language is named after depends on all suffixes of the cluster, and its name does not tell: a
suffix may happen to be a name that was made up elsewhere.

Main definitions:

* `Naming`: what the language of a column is named after.
* `Naming.Agrees`: when two columns have languages of one name.
* `Header.namings`: the columns of a cluster with their namings.

Results:

* `Naming.name_eq_iff`: names are the same exactly when the namings agree.
* `Header.languageAt?_eq_some_iff`: the language of a column is that of its naming.
-/

namespace Questionnaire

/-! ## Names -/

/-- What the language of a column is named after. -/
inductive Naming where
  | suffix (tail : String)
  /-- The place among several columns, counted from 1. -/
  | place (number : ℕ)
  /-- Nothing, as there is no other column. -/
  | only
  deriving DecidableEq

namespace Naming

/-- What the languages of the columns with these suffixes are named after. -/
def ofTails (tails : List String) : List Naming :=
  match tails with
  | [tail] => if tail.toList.any Text.isAlphanumeric then [.suffix tail] else [.only]
  | tails =>
    if tails.any fun tail => Text.startsWithLetter tail.toList then tails.map .suffix
    else (List.range tails.length).map fun index => .place (index + 1)

def name : Naming → String
  | .suffix tail => letteredTail tail
  | .place number => numberedLanguage number
  | .only => "Only Language"

def language (naming : Naming) : Language := .ofLabel naming.name

theorem presentableTails_eq (tails : List String) :
    presentableTails tails = (ofTails tails).map name := by
  have hseveral : (if tails.any fun tail => Text.startsWithLetter tail.toList then
      tails.map letteredTail
      else (List.range tails.length).map fun index => numberedLanguage (index + 1)) =
      (if tails.any fun tail => Text.startsWithLetter tail.toList then tails.map .suffix
        else (List.range tails.length).map fun index => .place (index + 1)).map name := by
    split <;> rw [List.map_map] <;> rfl
  match tails with
  | [] => rfl
  | [tail] =>
    unfold presentableTails ofTails
    dsimp only
    split <;> rfl
  | _ :: _ :: _ => exact hseveral

theorem length_ofTails (tails : List String) : (ofTails tails).length = tails.length := by
  have hlength : ((ofTails tails).map name).length = (ofTails tails).length := List.length_map _
  rw [← hlength, ← presentableTails_eq, length_presentableTails]

theorem ofTails_of_any {tails : List String}
    (h : (tails.any fun tail => Text.startsWithLetter tail.toList) = true) :
    ofTails tails = tails.map .suffix := by
  match tails with
  | [] => rfl
  | [tail] =>
    rw [List.any_cons, List.any_nil, Bool.or_false] at h
    have halphanumeric : tail.toList.any Text.isAlphanumeric = true := by
      cases hlist : tail.toList with
      | nil => rw [hlist] at h; cases h
      | cons c cs =>
        rw [hlist] at h
        have hletter : Text.isLetter c = true := h
        rw [List.any_cons, Text.isAlphanumeric, hletter]
        rfl
    exact if_pos halphanumeric
  | _ :: _ :: _ => exact if_pos h

theorem mem_of_suffix_mem_ofTails {tails : List String} {tail : String}
    (h : .suffix tail ∈ ofTails tails) : tail ∈ tails := by
  unfold ofTails at h
  split at h
  · split at h
    · simpa using h
    · simp at h
  · split at h
    · simpa using h
    · simp at h

/-! ## Names that are the same -/

/-- The suffix does not start with a letter, and this is the name that it has behind an `L`. -/
def IsLettered (tail name : String) : Prop :=
  Text.startsWithLetter tail.toList = false ∧ name = Text.trim ("L " ++ tail)

/-- The columns have languages of one name. -/
def Agrees : Naming → Naming → Prop
  | .suffix tail, .suffix other => tail = other ∨ IsLettered tail other ∨ IsLettered other tail
  | .place number, .place other => number = other
  | .only, .only => True
  | .suffix tail, .place number | .place number, .suffix tail => tail = numberedLanguage number
  | .suffix tail, .only | .only, .suffix tail => tail = "Only Language"
  | .place _, .only | .only, .place _ => False

/-- The suffix has no blanks around it. -/
def Trimmed (naming : Naming) : Prop :=
  ∀ tail, naming = .suffix tail → Text.trimList tail.toList = tail.toList

variable {tail other : String}

/-- Behind an `L` stands nothing, or a blank and the suffix. -/
theorem toList_trim_lettered (h : Text.trimList tail.toList = tail.toList) :
    (Text.trim ("L " ++ tail)).toList =
      if tail.toList = [] then ['L'] else 'L' :: ' ' :: tail.toList := by
  rw [Text.toList_trim, String.toList_append]
  split
  · rename_i hnil
    rw [hnil]
    decide
  · rename_i hne
    refine Text.trimList_eq_self_iff.2 ⟨fun c hc => ?_, fun c hc => ?_⟩
    · obtain rfl : 'L' = c := Option.some.inj hc
      decide
    · refine (Text.trimList_eq_self_iff.1 h).2 c ?_
      rwa [List.getLast?_append_of_ne_nil _ hne] at hc

theorem startsWithLetter_trim_lettered (h : Text.trimList tail.toList = tail.toList) :
    Text.startsWithLetter (Text.trim ("L " ++ tail)).toList = true := by
  rw [toList_trim_lettered h]
  split <;> exact (by decide : Text.isLetter 'L' = true)

theorem trim_lettered_inj (h : Text.trimList tail.toList = tail.toList)
    (h' : Text.trimList other.toList = other.toList)
    (heq : Text.trim ("L " ++ tail) = Text.trim ("L " ++ other)) : tail = other := by
  have hlist := congrArg String.toList heq
  rw [toList_trim_lettered h, toList_trim_lettered h'] at hlist
  refine String.toList_inj.1 ?_
  split at hlist <;> split at hlist
  · simp [*]
  · simp at hlist
  · simp at hlist
  · simpa using hlist

theorem letteredTail_eq_letteredTail_iff (h : Text.trimList tail.toList = tail.toList)
    (h' : Text.trimList other.toList = other.toList) :
    letteredTail tail = letteredTail other ↔
      tail = other ∨ IsLettered tail other ∨ IsLettered other tail := by
  have hstarts := startsWithLetter_trim_lettered h
  have hstarts' := startsWithLetter_trim_lettered h'
  unfold letteredTail IsLettered
  cases hletter : Text.startsWithLetter tail.toList <;>
    cases hletter' : Text.startsWithLetter other.toList
  · refine ⟨fun heq => .inl (trim_lettered_inj h h' heq), ?_⟩
    rintro (rfl | ⟨-, rfl⟩ | ⟨-, rfl⟩)
    · rfl
    · rw [hstarts] at hletter'
      cases hletter'
    · rw [hstarts'] at hletter
      cases hletter
  · refine ⟨fun heq => .inr (.inl ⟨rfl, heq.symm⟩), ?_⟩
    rintro (rfl | ⟨-, hname⟩ | ⟨hfalse, -⟩)
    · rw [hletter] at hletter'
      cases hletter'
    · exact hname.symm
    · cases hfalse
  · refine ⟨fun heq => .inr (.inr ⟨rfl, heq⟩), ?_⟩
    rintro (rfl | ⟨hfalse, -⟩ | ⟨-, hname⟩)
    · rw [hletter] at hletter'
      cases hletter'
    · cases hfalse
    · exact hname
  · simp

/-- A name that is made up is that of a suffix only if the suffix says so itself. -/
theorem letteredTail_eq_iff {name : String} (h : Text.trimList tail.toList = tail.toList)
    (hletter : Text.startsWithLetter name.toList = true)
    (hsecond : ∃ c, name.toList[1]? = some c ∧ c ≠ ' ') :
    letteredTail tail = name ↔ tail = name := by
  unfold letteredTail
  split
  · exact Iff.rfl
  · rename_i hstarts
    constructor
    · rintro rfl
      rw [toList_trim_lettered h] at hsecond
      obtain ⟨c, hc, hne⟩ := hsecond
      split at hc
      · cases hc
      · exact absurd (Option.some.inj hc).symm hne
    · rintro rfl
      exact absurd hletter hstarts

theorem toList_numberedLanguage (number : ℕ) :
    (numberedLanguage number).toList = "Language ".toList ++ Text.padded 2 number :=
  String.toList_ofList

theorem numberedLanguage_inj {number other : ℕ} :
    numberedLanguage number = numberedLanguage other ↔ number = other := by
  refine ⟨fun h => ?_, congrArg _⟩
  have hlist := congrArg String.toList h
  rw [toList_numberedLanguage, toList_numberedLanguage] at hlist
  rw [← Text.number_padded 2 number, List.append_cancel_left hlist, Text.number_padded]

theorem letteredTail_eq_numberedLanguage_iff (h : Text.trimList tail.toList = tail.toList)
    (number : ℕ) :
    letteredTail tail = numberedLanguage number ↔ tail = numberedLanguage number := by
  refine letteredTail_eq_iff h ?_ ⟨'a', ?_, by decide⟩
  · rw [toList_numberedLanguage]
    exact (by decide : Text.isLetter 'L' = true)
  · rw [toList_numberedLanguage]
    rfl

theorem numberedLanguage_ne (number : ℕ) : numberedLanguage number ≠ "Only Language" := by
  intro h
  have hlist := congrArg String.toList h
  rw [toList_numberedLanguage] at hlist
  cases hlist

/-- Names are the same exactly when the namings agree. -/
theorem name_eq_iff {naming other : Naming} (h : naming.Trimmed) (h' : other.Trimmed) :
    naming.name = other.name ↔ naming.Agrees other := by
  cases naming with
  | suffix tail =>
    have htail := h tail rfl
    cases other with
    | suffix tail' => exact letteredTail_eq_letteredTail_iff htail (h' tail' rfl)
    | place number => exact letteredTail_eq_numberedLanguage_iff htail number
    | only => exact letteredTail_eq_iff htail (by decide) ⟨'n', rfl, by decide⟩
  | place number =>
    cases other with
    | suffix tail =>
      exact eq_comm.trans (letteredTail_eq_numberedLanguage_iff (h' tail rfl) number)
    | place number' => exact numberedLanguage_inj
    | only => exact iff_of_false (numberedLanguage_ne number) id
  | only =>
    cases other with
    | suffix tail =>
      exact eq_comm.trans (letteredTail_eq_iff (h' tail rfl) (by decide) ⟨'n', rfl, by decide⟩)
    | place number => exact iff_of_false (numberedLanguage_ne number).symm id
    | only => exact iff_of_true rfl trivial

theorem language_eq_iff {naming other : Naming} (h : naming.Trimmed) (h' : other.Trimmed) :
    naming.language = other.language ↔ naming.Agrees other :=
  Iff.trans ⟨ofLabel_injective, congrArg Language.ofLabel⟩ (name_eq_iff h h')

theorem agrees_suffix_iff (h : Text.startsWithLetter tail.toList = true)
    (h' : Text.startsWithLetter other.toList = true) :
    Agrees (.suffix tail) (.suffix other) ↔ tail = other := by
  simp [Agrees, IsLettered, h, h']

end Naming

/-! ## Columns -/

namespace Cluster

/-- The language of a column of the cluster. -/
def languageAt? (cluster : Cluster) (column : ℕ) : Option Language :=
  (cluster.columns.find? fun other => other.column = column).map ClusterColumn.language

/-- A text is read from the first column of its language. -/
theorem text?_localized (cluster : Cluster) (row : Row) (language : Language) :
    (cluster.localized row).text? language =
      (cluster.columns.find? fun column => column.language = language).bind fun column =>
        row.text column.column := by
  rw [Localized.text?, localized, Localized.get?_ofList]
  induction cluster.columns with
  | nil => rfl
  | cons column columns ih =>
    rw [List.map_cons, List.lookup_cons, List.find?_cons]
    by_cases hlanguage : column.language = language
    · simp [hlanguage]
    · rw [beq_eq_false_iff_ne.2 (Ne.symm hlanguage), decide_eq_false hlanguage]
      exact ih

end Cluster

namespace Header

variable {header : Header} {stem : String}

/-- The suffixes of a cluster. -/
def suffixes (header : Header) (stem : String) : List String :=
  (header.tails stem).map fun entry => entry.2.2

/-- The columns of a cluster with what their languages are named after. -/
def namings (header : Header) (stem : String) : List (ℕ × Naming) :=
  ((header.tails stem).map Prod.fst).zip (Naming.ofTails (header.suffixes stem))

theorem map_fst_namings (header : Header) (stem : String) :
    (header.namings stem).map Prod.fst = (header.tails stem).map Prod.fst := by
  refine List.map_fst_zip ?_
  rw [Naming.length_ofTails, suffixes, List.length_map, List.length_map]

theorem exists_naming_of_mem_tails {entry : ℕ × String × String}
    (h : entry ∈ header.tails stem) : ∃ naming, (entry.1, naming) ∈ header.namings stem := by
  have hm : entry.1 ∈ (header.namings stem).map Prod.fst := by
    rw [map_fst_namings]
    exact List.mem_map_of_mem h
  obtain ⟨⟨column, naming⟩, hnaming, hcolumn⟩ := List.mem_map.1 hm
  exact ⟨naming, hcolumn ▸ hnaming⟩

/-- Suffixes have no blanks around them. -/
theorem trimList_clusterTail? {title tail : String} (h : clusterTail? stem title = some tail) :
    Text.trimList tail.toList = tail.toList := by
  unfold clusterTail? at h
  split at h
  · obtain rfl := Option.some.inj h
    rfl
  · obtain ⟨rest, -, rfl⟩ := Option.map_eq_some_iff.1 h
    rw [String.toList_ofList, Text.trimList_trimList]

theorem trimList_of_mem_suffixes {tail : String} (h : tail ∈ header.suffixes stem) :
    Text.trimList tail.toList = tail.toList := by
  obtain ⟨⟨column, title, tail⟩, hm, rfl⟩ := List.mem_map.1 h
  obtain ⟨⟨column', title'⟩, -, htail⟩ := List.mem_filterMap.1 hm
  obtain ⟨tail', htail, heq⟩ := Option.map_eq_some_iff.1 htail
  cases heq
  exact trimList_clusterTail? htail

theorem trimmed_of_mem_namings {column : ℕ} {naming : Naming}
    (h : (column, naming) ∈ header.namings stem) : naming.Trimmed := by
  rintro tail rfl
  exact trimList_of_mem_suffixes (Naming.mem_of_suffix_mem_ofTails (List.of_mem_zip h).2)

/-- A suffix that starts with a letter is always what its language is named after. -/
theorem suffix_mem_namings {column : ℕ} {title tail : String}
    (h : (column, title, tail) ∈ header.tails stem)
    (hletter : Text.startsWithLetter tail.toList = true) :
    (column, .suffix tail) ∈ header.namings stem := by
  have hany : (header.suffixes stem).any (fun tail => Text.startsWithLetter tail.toList) = true :=
    List.any_eq_true.2 ⟨tail, List.mem_map.2 ⟨_, h, rfl⟩, hletter⟩
  rw [namings, Naming.ofTails_of_any hany, suffixes, List.map_map, List.zip_map']
  exact List.mem_map.2 ⟨_, h, rfl⟩

theorem nodup_namings (header : Header) (stem : String) :
    ((header.namings stem).map Prod.fst).Nodup := by
  rw [map_fst_namings, tails_eq, List.map_map]
  refine List.Pairwise.map _ (fun entry later hlt => Nat.ne_of_lt hlt) ?_
  exact (pairwise_titled header).filter _

/-- A column of a cluster has one naming. -/
theorem find?_namings {column : ℕ} {naming : Naming}
    (h : (column, naming) ∈ header.namings stem) :
    ((header.namings stem).find? fun entry => entry.1 = column) = some (column, naming) := by
  cases hfound : (header.namings stem).find? fun entry => entry.1 = column with
  | none => exact absurd (decide_eq_true rfl) (List.find?_eq_none.1 hfound _ h)
  | some entry =>
    have hcolumn : entry.1 = column := of_decide_eq_true (List.find?_some hfound :)
    have hmem := List.mem_of_find?_eq_some hfound
    rw [List.inj_on_of_nodup_map (header.nodup_namings stem) hmem h hcolumn]

variable {cluster : Cluster} (h : header.cluster? stem = some cluster)

include h

/-- The columns of a cluster are those with its stem, each with its naming. -/
theorem columns_cluster? : cluster.stem = stem ∧ cluster.columns =
    ((header.tails stem).zip (Naming.ofTails (header.suffixes stem))).map fun entry =>
      ⟨entry.1.2.1, entry.2.name, entry.1.1⟩ := by
  unfold cluster? at h
  unfold suffixes
  cases htails : header.tails stem with
  | nil => rw [htails] at h; cases h
  | cons entry rest =>
    rw [htails] at h
    obtain rfl := Option.some.inj h
    refine ⟨rfl, ?_⟩
    dsimp only
    rw [Naming.presentableTails_eq, List.zip_map_right, List.map_map]
    rfl

/-- The columns of a cluster have the languages of their namings. -/
theorem map_columns_cluster? :
    (cluster.columns.map fun column => (column.column, column.language)) =
      (header.namings stem).map (Prod.map id Naming.language) := by
  rw [(columns_cluster? h).2, List.map_map, namings, List.zip_map_left, List.map_map]
  rfl

theorem languageAt?_cluster? (column : ℕ) :
    cluster.languageAt? column =
      ((header.namings stem).find? fun entry => entry.1 = column).map fun entry =>
        entry.2.language := by
  have hpairs : cluster.languageAt? column =
      ((cluster.columns.map fun column => (column.column, column.language)).find? fun entry =>
        entry.1 = column).map Prod.snd := by
    rw [List.find?_map, Option.map_map]
    rfl
  rw [hpairs, map_columns_cluster? h, List.find?_map, Option.map_map]
  rfl

theorem languageAt?_eq_some_iff {column : ℕ} {language : Language} :
    cluster.languageAt? column = some language ↔
      ∃ naming, (column, naming) ∈ header.namings stem ∧ naming.language = language := by
  rw [languageAt?_cluster? h, Option.map_eq_some_iff]
  constructor
  · rintro ⟨⟨column', naming⟩, hfound, hlanguage⟩
    obtain rfl : column' = column := of_decide_eq_true (List.find?_some hfound :)
    exact ⟨naming, List.mem_of_find?_eq_some hfound, hlanguage⟩
  · rintro ⟨naming, hm, hlanguage⟩
    exact ⟨_, find?_namings hm, hlanguage⟩

/-- The languages of a cluster are those of its columns. -/
theorem mem_languages_iff {language : Language} :
    language ∈ cluster.languages ↔ ∃ column, cluster.languageAt? column = some language := by
  have hlanguages : cluster.languages = (header.namings stem).map fun entry =>
      entry.2.language := by
    have hpairs := congrArg (List.map Prod.snd) (map_columns_cluster? h)
    rw [List.map_map, List.map_map] at hpairs
    exact hpairs
  simp only [languageAt?_eq_some_iff h]
  rw [hlanguages, List.mem_map, Prod.exists]

omit h in
theorem languageAt?_of_mem_namings {column : ℕ} {naming : Naming}
    (hm : (column, naming) ∈ header.namings stem) :
    ((header.cluster? stem).bind fun cluster => cluster.languageAt? column) =
      some naming.language := by
  cases hcluster : header.cluster? stem with
  | none =>
    have htails : header.tails stem = [] := by
      unfold cluster? at hcluster
      split at hcluster
      · assumption
      · cases hcluster
    rw [namings, htails] at hm
    cases hm
  | some cluster => exact (languageAt?_eq_some_iff hcluster).2 ⟨naming, hm, rfl⟩

end Header

end Questionnaire
