import Mathlib.Data.List.Forall2
import Mathlib.Data.List.Nodup
import Mathlib.Data.List.Perm.Basic
import Questionnaire.Language.Available
import Questionnaire.Language.Localized

/-!
# First occurrences

A localized text keeps the first entry of each language, and a form keeps the first language of each
label. Languages are made from their labels, so both drop the same repetitions: the languages of a
text that is read from a cluster are those of the form that the cluster contributes.

Results:

* `rel_find?`: the first entries of a kind in lists whose entries are related.
* `Localized.languages_ofList`: the languages of a collected text.
* `Localized.ofList_map`, `Localized.text?_ofTexts`: a text that is collected for a list of languages.
* `LanguagesAvailable.inGroupsAndQuestions_compute`: the languages of the questions are those of the
  survey labels.
* `LanguagesAvailable.inSelectionAnswers_compute`: those of the answers are those of the choice
  labels, in the order of all languages.
* `LanguagesAvailable.mem_inCommon_compute`: the languages in common are those of both.
-/

namespace Questionnaire

theorem ofLabel_injective {language other : String}
    (h : Language.ofLabel language = Language.ofLabel other) : language = other :=
  congrArg Language.label h

/-- Every language of the list is made from its label. -/
def AreLabelled (languages : List Language) : Prop :=
  ∀ language ∈ languages, language = .ofLabel language.label

theorem AreLabelled.label_inj {languages : List Language} (h : AreLabelled languages)
    {language other : Language} (hm : language ∈ languages) (hother : other ∈ languages) :
    language.label = other.label ↔ language = other := by
  constructor
  · intro hlabel
    rw [h language hm, h other hother, hlabel]
  · exact congrArg Language.label

theorem AreLabelled.of_subset {languages others : List Language} (h : AreLabelled languages)
    (hsubset : others ⊆ languages) : AreLabelled others :=
  fun language hm => h language (hsubset hm)

/-- Lists whose entries are related have related first entries of a kind. -/
theorem rel_find? {α : Type} {R : α → α → Prop} {p : α → Bool}
    (hp : ∀ a b, R a b → p b = p a) {entries others : List α} (h : List.Forall₂ R entries others) :
    Option.Rel R (entries.find? p) (others.find? p) := by
  induction h with
  | nil => exact .none
  | @cons a b _ _ hab _ ih =>
    rw [List.find?_cons, List.find?_cons, hp a b hab]
    cases p a with
    | false => exact ih
    | true => exact .some hab

/-! ## First languages -/

namespace LanguagesAvailable

theorem nodup_firstOfLabel (languages : List Language) : (firstOfLabel languages).Nodup := by
  induction languages with
  | nil => exact .nil
  | cons first rest ih =>
    refine List.nodup_cons.2 ⟨fun hm => ?_, ih.filter _⟩
    have hne := (List.mem_filter.1 hm).2
    simp at hne

/-- No language is lost when each label has one language. -/
theorem mem_firstOfLabel_iff {languages : List Language} (h : AreLabelled languages)
    {language : Language} : language ∈ firstOfLabel languages ↔ language ∈ languages := by
  refine ⟨mem_firstOfLabel, fun hm => ?_⟩
  induction languages with
  | nil => exact hm
  | cons first rest ih =>
    by_cases hfirst : language = first
    · exact List.mem_cons.2 (.inl hfirst)
    · have hrest := (List.mem_cons.1 hm).resolve_left hfirst
      have hlabel : language.label ≠ first.label := fun heq =>
        hfirst ((h.label_inj hm List.mem_cons_self).1 heq)
      have hm := ih (h.of_subset (List.subset_cons_self _ _)) hrest
      exact List.mem_cons.2 (.inr (List.mem_filter.2 ⟨hm, decide_eq_true hlabel⟩))

theorem occursIn_eq_true_iff {language : Language} {languages : Option (List Language)} :
    occursIn language languages = true ↔
      ∃ other ∈ languages.getD [], other.label = language.label := by
  simp [occursIn]

/-- Among languages that are made from their labels, a language occurs in the lists that it is
in. -/
theorem occursIn_iff_mem {all : List Language} (h : AreLabelled all)
    {languages : Option (List Language)} (hsubset : languages.getD [] ⊆ all) {language : Language}
    (hm : language ∈ all) : occursIn language languages = true ↔ language ∈ languages.getD [] := by
  rw [occursIn_eq_true_iff]
  constructor
  · rintro ⟨other, hother, hlabel⟩
    rwa [← (h.label_inj (hsubset hother) hm).1 hlabel]
  · exact fun hother => ⟨language, hother, rfl⟩

/-- The second list only adds languages of labels that the first does not have. -/
theorem firstOfLabel_append (languages others : List Language) :
    firstOfLabel (languages ++ others) = firstOfLabel languages ++
      (firstOfLabel others).filter fun language => !occursIn language (some languages) := by
  induction languages with
  | nil => simp [firstOfLabel, occursIn]
  | cons first rest ih =>
    rw [List.cons_append, firstOfLabel, ih, firstOfLabel, List.filter_append, List.filter_filter,
      List.cons_append]
    congr 2
    refine List.filter_congr fun language _ => ?_
    simp [occursIn, eq_comm]

theorem filter_occursIn_firstOfLabel (languages others : List Language) :
    (firstOfLabel (languages ++ others)).filter (occursIn · (some languages)) =
      firstOfLabel languages := by
  have hown : (firstOfLabel languages).filter (occursIn · (some languages)) =
      firstOfLabel languages := List.filter_eq_self.2 fun language hm =>
    occursIn_eq_true_iff.2 ⟨language, mem_firstOfLabel hm, rfl⟩
  rw [firstOfLabel_append, List.filter_append, hown, List.filter_filter]
  simp

/-! ## The languages of a form -/

theorem inGroupsAndQuestions_compute (labels hints choices : Option (List Language)) :
    (compute labels hints choices).inGroupsAndQuestions = firstOfLabel (labels.getD []) := by
  have hoccurs (language : Language) :
      occursIn language labels = occursIn language (some (labels.getD [])) := rfl
  unfold compute
  simp only [hoccurs, List.append_assoc]
  exact filter_occursIn_firstOfLabel _ _

/-- The languages of the answers are those of the choice labels, perhaps in another order. -/
theorem inSelectionAnswers_compute {labels hints choices : Option (List Language)}
    (h : AreLabelled (labels.getD [] ++ hints.getD [] ++ choices.getD [])) :
    (compute labels hints choices).inSelectionAnswers.Perm (firstOfLabel (choices.getD [])) := by
  have hchoices : choices.getD [] ⊆ labels.getD [] ++ hints.getD [] ++ choices.getD [] :=
    List.subset_append_right _ _
  refine (List.perm_ext_iff_of_nodup ((nodup_firstOfLabel _).filter _) (nodup_firstOfLabel _)).2 ?_
  intro language
  rw [List.mem_filter, mem_firstOfLabel_iff h, mem_firstOfLabel_iff (h.of_subset hchoices)]
  constructor
  · exact fun ⟨hm, hoccurs⟩ => (occursIn_iff_mem h hchoices hm).1 hoccurs
  · exact fun hm => ⟨hchoices hm, (occursIn_iff_mem h hchoices (hchoices hm)).2 hm⟩

/-- The languages in common are those of both the survey labels and the choice labels. -/
theorem mem_inCommon_compute {labels hints choices : Option (List Language)}
    (h : AreLabelled (labels.getD [] ++ hints.getD [] ++ choices.getD [])) {language : Language} :
    language ∈ (compute labels hints choices).inCommon ↔
      language ∈ labels.getD [] ∧ language ∈ choices.getD [] := by
  have hlabels : labels.getD [] ⊆ labels.getD [] ++ hints.getD [] ++ choices.getD [] :=
    List.Subset.trans (List.subset_append_left _ _) (List.subset_append_left _ _)
  have hchoices : choices.getD [] ⊆ labels.getD [] ++ hints.getD [] ++ choices.getD [] :=
    List.subset_append_right _ _
  show language ∈ (firstOfLabel _).filter _ ↔ _
  rw [List.mem_filter, mem_firstOfLabel_iff h, Bool.and_eq_true]
  constructor
  · rintro ⟨hm, hlabel, hchoice⟩
    exact ⟨(occursIn_iff_mem h hlabels hm).1 hlabel, (occursIn_iff_mem h hchoices hm).1 hchoice⟩
  · rintro ⟨hlabel, hchoice⟩
    have hm := hlabels hlabel
    exact ⟨hm, (occursIn_iff_mem h hlabels hm).2 hlabel,
      (occursIn_iff_mem h hchoices hm).2 hchoice⟩

end LanguagesAvailable

/-! ## The languages of a text -/

/-- Members are dropped before repetitions as well as after them. -/
theorem eraseDups_filter {α : Type} [BEq α] [LawfulBEq α] (p : α → Bool) :
    ∀ members : List α, (members.filter p).eraseDups = members.eraseDups.filter p
  | [] => rfl
  | first :: rest => by
    have ih := eraseDups_filter p (rest.filter fun other => !other == first)
    rw [List.eraseDups_cons]
    by_cases hfirst : p first = true
    · rw [List.filter_cons_of_pos hfirst, List.filter_cons_of_pos hfirst, List.eraseDups_cons, ← ih,
        List.filter_filter, List.filter_filter]
      simp only [Bool.and_comm]
    · rw [List.filter_cons_of_neg hfirst, List.filter_cons_of_neg hfirst, ← ih, List.filter_filter]
      congr 1
      refine List.filter_congr fun other _ => ?_
      cases hother : p other with
      | false => rfl
      | true =>
        have hne : other ≠ first := by
          rintro rfl
          exact hfirst hother
        simp [hne]
termination_by members => members.length
decreasing_by exact Nat.lt_succ_of_le (List.length_filter_le _ _)

/-- The first occurrences of members are all different. -/
theorem nodup_eraseDups {α : Type} [BEq α] [LawfulBEq α] :
    ∀ members : List α, members.eraseDups.Nodup
  | [] => .nil
  | first :: rest => by
    have ih := nodup_eraseDups (rest.filter fun other => !other == first)
    rw [List.eraseDups_cons, List.nodup_cons, List.mem_eraseDups, List.mem_filter]
    exact ⟨fun h => by simp at h, ih⟩
termination_by members => members.length
decreasing_by exact Nat.lt_succ_of_le (List.length_filter_le _ _)

namespace Localized

open LanguagesAvailable

/-- The languages of the entries, in order. -/
def languages (text : Localized) : List Language := text.entries.map Prod.fst

@[simp] theorem languages_mapTexts (text : Localized) (f : String → String) :
    (text.mapTexts f).languages = text.languages := by
  simp [languages, mapTexts, Function.comp_def]

/-- A collected text has an entry for the first occurrence of each language. -/
theorem languages_ofList {entries : List (Language × Option String)}
    (h : AreLabelled (entries.map Prod.fst)) :
    (ofList entries).languages = firstOfLabel (entries.map Prod.fst) := by
  unfold languages ofList
  induction entries with
  | nil => rfl
  | cons entry entries ih =>
    rw [List.map_cons] at h
    have ih := ih (h.of_subset (List.subset_cons_self _ _))
    simp only at ih
    have hfilter : ((firstEntries entries).filter fun other => other.1 ≠ entry.1).map Prod.fst =
        ((firstEntries entries).map Prod.fst).filter fun language => language ≠ entry.1 := by
      rw [List.filter_map]
      rfl
    rw [firstEntries, List.map_cons, List.map_cons, firstOfLabel, hfilter, ih]
    congr 1
    refine List.filter_congr fun language hm => ?_
    have hm : language ∈ entry.1 :: entries.map Prod.fst :=
      List.mem_cons_of_mem _ (mem_firstOfLabel hm)
    simp only [ne_eq, h.label_inj hm List.mem_cons_self]

theorem firstEntries_of_nodup {entries : List (Language × Option String)}
    (h : (entries.map Prod.fst).Nodup) : firstEntries entries = entries := by
  induction entries with
  | nil => rfl
  | cons entry entries ih =>
    rw [List.map_cons, List.nodup_cons] at h
    rw [firstEntries, ih h.2]
    congr 1
    refine List.filter_eq_self.2 fun other hm => decide_eq_true fun heq => h.1 ?_
    rw [← heq]
    exact List.mem_map_of_mem hm

/-! ## A text for a list of languages -/

/-- The text that each of the languages has. A language that is repeated counts once. -/
def ofTexts (languages : List Language) (text : Language → String) : Localized :=
  ⟨languages.eraseDups.map fun language => (language, some (text language))⟩

theorem ofList_map (languages : List Language) (text : Language → String) :
    ofList (languages.map fun language => (language, some (text language))) =
      ofTexts languages text := by
  refine congrArg Localized.mk ?_
  induction languages with
  | nil => rfl
  | cons first languages ih =>
    have hfilter : (languages.filter fun language => !language == first).eraseDups =
        languages.eraseDups.filter fun language => !language == first := eraseDups_filter _ _
    rw [List.map_cons, firstEntries, ih, List.filter_map, List.eraseDups_cons, hfilter,
      List.map_cons]
    congr 2
    exact List.filter_congr fun language _ => by simp [beq_eq_decide]

theorem constant_eq (languages : List Language) (text : String) :
    constant languages text = ofTexts languages fun _ => text := ofList_map languages fun _ => text

theorem ofTexts_congr {languages : List Language} {text other : Language → String}
    (h : ∀ language ∈ languages, text language = other language) :
    ofTexts languages text = ofTexts languages other := by
  refine congrArg Localized.mk (List.map_congr_left fun language hm => ?_)
  rw [h language (List.mem_eraseDups.1 hm)]

theorem lookup_map_of_mem {language : Language} {languages : List Language}
    (f : Language → Option String) (h : language ∈ languages) :
    (languages.map fun other => (other, f other)).lookup language = some (f language) := by
  induction languages with
  | nil => cases h
  | cons first languages ih =>
    rw [List.map_cons, List.lookup_cons]
    by_cases hfirst : language = first
    · rw [hfirst, beq_self_eq_true]
    · rw [beq_eq_false_iff_ne.2 hfirst]
      exact ih ((List.mem_cons.1 h).resolve_left hfirst)

theorem text?_ofTexts {language : Language} {languages : List Language} (text : Language → String)
    (h : language ∈ languages) :
    (ofTexts languages text).text? language = some (text language) := by
  rw [← ofList_map, text?, get?_ofList, lookup_map_of_mem (fun other => some (text other)) h,
    Option.join_some]

theorem languages_ofTexts {languages : List Language} (h : languages.Nodup)
    (text : Language → String) : (ofTexts languages text).languages = languages := by
  have hkeys : (languages.map fun language => (language, some (text language))).map Prod.fst =
      languages := by
    rw [List.map_map]
    exact List.map_id' languages
  rw [← ofList_map]
  unfold Localized.languages ofList
  rw [firstEntries_of_nodup (by rw [hkeys]; exact h), hkeys]

end Localized

end Questionnaire
