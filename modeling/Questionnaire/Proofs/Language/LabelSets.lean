import Questionnaire.Proofs.Language.FirstOccurrences

/-!
# Languages by label

The languages of a form come from three lists, any of which may be missing. A label may be met more
than once, and two languages of one label may differ in their identifiers: only the labels are
compared, and the first language of a label stands for all of them. So the lists behave as sets of
labels, in the order in which the labels are first met.

Main definitions:

* `LanguagesAvailable.HasLabel`: the label is met in a list.
* `LanguagesAvailable.IsPart`: the languages of some labels, in order.
* `LanguagesAvailable.ByLabel`: the languages of a form as sets of labels.

Results:

* `LanguagesAvailable.map_label_firstOfLabel`, `LanguagesAvailable.find?_of_mem_firstOfLabel`: the
  first language of each label.
* `LanguagesAvailable.byLabel_compute`: the languages of a form are sets of labels, and those of the
  hints leave the other sets as they are.
-/

namespace Questionnaire.LanguagesAvailable

/-! ## First languages -/

/-- The first languages have the labels in the order in which they are first met. -/
theorem map_label_firstOfLabel (languages : List Language) :
    (firstOfLabel languages).map Language.label = (languages.map Language.label).eraseDups := by
  induction languages with
  | nil => rfl
  | cons first rest ih =>
    have hrest : ((rest.map Language.label).filter fun label => !label == first.label).eraseDups =
        (rest.map Language.label).eraseDups.filter fun label => !label == first.label :=
      eraseDups_filter _ _
    rw [firstOfLabel, List.map_cons, List.map_cons, List.eraseDups_cons, hrest, ← ih,
      List.filter_map]
    congr 2
    exact List.filter_congr fun language _ => by simp [beq_eq_decide]

theorem mem_map_label_firstOfLabel {languages : List Language} {label : String} :
    label ∈ (firstOfLabel languages).map Language.label ↔ label ∈ languages.map Language.label := by
  rw [map_label_firstOfLabel, List.mem_eraseDups]

/-- A first language is what a search for its label finds. -/
theorem find?_of_mem_firstOfLabel {languages : List Language} {language : Language}
    (h : language ∈ firstOfLabel languages) :
    (languages.find? fun other => other.label = language.label) = some language := by
  induction languages with
  | nil => cases h
  | cons first rest ih =>
    rw [firstOfLabel, List.mem_cons, List.mem_filter] at h
    rw [List.find?_cons]
    rcases h with rfl | ⟨hrest, hlabel⟩
    · rw [decide_eq_true rfl]
    · rw [decide_eq_false (Ne.symm (of_decide_eq_true hlabel))]
      exact ih hrest

/-! ## Parts -/

/-- The list is there, and one of its languages has the label. -/
def HasLabel (languages : Option (List Language)) (label : String) : Prop :=
  ∃ present, languages = some present ∧ label ∈ present.map Language.label

theorem hasLabel_iff {languages : Option (List Language)} {label : String} :
    HasLabel languages label ↔ label ∈ (languages.getD []).map Language.label := by
  cases languages <;> simp [HasLabel]

theorem occursIn_iff_hasLabel {language : Language} {languages : Option (List Language)} :
    occursIn language languages = true ↔ HasLabel languages language.label := by
  rw [occursIn_eq_true_iff, hasLabel_iff, List.mem_map]

/-- The languages whose labels are wanted, in the order of all languages. -/
structure IsPart (part all : List Language) (wanted : String → Prop) : Prop where
  inOrder : part.Sublist all
  mem_iff : ∀ language, language ∈ part ↔ language ∈ all ∧ wanted language.label

namespace IsPart

variable {part all : List Language} {wanted : String → Prop}

theorem filter {p : Language → Bool} (h : ∀ language, p language = true ↔ wanted language.label) :
    IsPart (all.filter p) all wanted where
  inOrder := List.filter_sublist
  mem_iff language := by rw [List.mem_filter, h]

theorem eq_nil (h : IsPart part all wanted) (hnone : ∀ label, ¬ wanted label) : part = [] :=
  List.eq_nil_iff_forall_not_mem.2 fun language hm => hnone _ ((h.mem_iff language).1 hm).2

/-- If every wanted label is met, the part has just the wanted labels. -/
theorem mem_map_label_iff (h : IsPart part all wanted)
    (hmet : ∀ label, wanted label → label ∈ all.map Language.label) (label : String) :
    label ∈ part.map Language.label ↔ wanted label := by
  rw [List.mem_map]
  constructor
  · rintro ⟨language, hm, rfl⟩
    exact ((h.mem_iff language).1 hm).2
  · intro hwanted
    obtain ⟨language, hm, rfl⟩ := List.mem_map.1 (hmet label hwanted)
    exact ⟨language, (h.mem_iff language).2 ⟨hm, hwanted⟩, rfl⟩

end IsPart

/-! ## The languages of a form -/

/-- The languages of a form as sets of labels, made from the lists of the survey labels, the survey
hints and the choice labels. -/
structure ByLabel (labels hints choices : Option (List Language))
    (languages : LanguagesAvailable) : Prop where
  distinct : (languages.all.map Language.label).Nodup
  labels_all : languages.all.map Language.label =
    ((labels.getD [] ++ hints.getD [] ++ choices.getD []).map Language.label).eraseDups
  /-- Of the languages of one label, the first is kept. -/
  first : ∀ language ∈ languages.all,
    ((labels.getD [] ++ hints.getD [] ++ choices.getD []).find? fun other =>
      other.label = language.label) = some language
  questions : IsPart languages.inGroupsAndQuestions languages.all (HasLabel labels)
  answers : IsPart languages.inSelectionAnswers languages.all (HasLabel choices)
  common : IsPart languages.inCommon languages.all fun label =>
    HasLabel labels label ∧ HasLabel choices label
  labelsMissing : labels = none → languages.inGroupsAndQuestions = [] ∧ languages.inCommon = []
  choicesMissing : choices = none → languages.inSelectionAnswers = [] ∧ languages.inCommon = []
  /-- The languages of the questions come before all others. -/
  initial : languages.inGroupsAndQuestions <+: languages.all
  labels_initial : languages.inGroupsAndQuestions.map Language.label =
    ((labels.getD []).map Language.label).eraseDups
  intersection : ∀ language, language ∈ languages.inCommon ↔
    language ∈ languages.inGroupsAndQuestions ∧ language ∈ languages.inSelectionAnswers

/-- Two overviews have the same labels for the questions, for the answers and in common. -/
structure SameLabels (languages other : LanguagesAvailable) : Prop where
  questions : ∀ label, label ∈ other.inGroupsAndQuestions.map Language.label ↔
    label ∈ languages.inGroupsAndQuestions.map Language.label
  answers : ∀ label, label ∈ other.inSelectionAnswers.map Language.label ↔
    label ∈ languages.inSelectionAnswers.map Language.label
  common : ∀ label, label ∈ other.inCommon.map Language.label ↔
    label ∈ languages.inCommon.map Language.label

section

variable (labels hints choices : Option (List Language))

theorem isPart_inGroupsAndQuestions : IsPart (compute labels hints choices).inGroupsAndQuestions
    (compute labels hints choices).all (HasLabel labels) :=
  .filter fun _ => occursIn_iff_hasLabel

theorem isPart_inSelectionAnswers : IsPart (compute labels hints choices).inSelectionAnswers
    (compute labels hints choices).all (HasLabel choices) :=
  .filter fun _ => occursIn_iff_hasLabel

theorem isPart_inCommon : IsPart (compute labels hints choices).inCommon
    (compute labels hints choices).all fun label =>
      HasLabel labels label ∧ HasLabel choices label :=
  .filter fun _ => by rw [Bool.and_eq_true, occursIn_iff_hasLabel, occursIn_iff_hasLabel]

/-- The labels of all languages are those of the three lists. -/
theorem mem_map_label_all {label : String} :
    label ∈ (compute labels hints choices).all.map Language.label ↔
      HasLabel labels label ∨ HasLabel hints label ∨ HasLabel choices label := by
  refine mem_map_label_firstOfLabel.trans ?_
  rw [List.map_append, List.map_append, List.mem_append, List.mem_append, hasLabel_iff,
    hasLabel_iff, hasLabel_iff, or_assoc]

/-- The labels of each part are those of its lists, whatever the hints are. -/
theorem sameLabels_compute (otherHints : Option (List Language)) :
    (compute labels hints choices).SameLabels (compute labels otherHints choices) where
  questions label := by
    have hlabels (hints : Option (List Language)) :=
      (isPart_inGroupsAndQuestions labels hints choices).mem_map_label_iff
        (fun _ h => (mem_map_label_all ..).2 (.inl h)) label
    rw [hlabels, hlabels]
  answers label := by
    have hlabels (hints : Option (List Language)) :=
      (isPart_inSelectionAnswers labels hints choices).mem_map_label_iff
        (fun _ h => (mem_map_label_all ..).2 (.inr (.inr h))) label
    rw [hlabels, hlabels]
  common label := by
    have hlabels (hints : Option (List Language)) :=
      (isPart_inCommon labels hints choices).mem_map_label_iff
        (fun _ h => (mem_map_label_all ..).2 (.inl h.1)) label
    rw [hlabels, hlabels]

/-- The languages of a form are sets of labels, and those of the hints leave the other sets as they
are. -/
theorem byLabel_compute :
    (compute labels hints choices).ByLabel labels hints choices ∧
      ∀ otherHints, (compute labels hints choices).SameLabels
        (compute labels otherHints choices) := by
  have hquestions := isPart_inGroupsAndQuestions labels hints choices
  have hanswers := isPart_inSelectionAnswers labels hints choices
  have hcommon := isPart_inCommon labels hints choices
  have hmissing (label : String) : ¬ HasLabel none label := fun ⟨_, h, _⟩ => nomatch h
  have hlabels : (compute labels hints choices).all.map Language.label =
      ((labels.getD [] ++ hints.getD [] ++ choices.getD []).map Language.label).eraseDups :=
    map_label_firstOfLabel _
  refine ⟨{
    distinct := hlabels ▸ nodup_eraseDups _
    labels_all := hlabels
    first := fun language hm => find?_of_mem_firstOfLabel hm
    questions := hquestions
    answers := hanswers
    common := hcommon
    labelsMissing := ?_
    choicesMissing := ?_
    initial := ?_
    labels_initial := ?_
    intersection := ?_ }, sameLabels_compute labels hints choices⟩
  · rintro rfl
    exact ⟨hquestions.eq_nil hmissing, hcommon.eq_nil fun label h => hmissing label h.1⟩
  · rintro rfl
    exact ⟨hanswers.eq_nil hmissing, hcommon.eq_nil fun label h => hmissing label h.2⟩
  · rw [inGroupsAndQuestions_compute]
    show _ <+: firstOfLabel (_ ++ _ ++ _)
    rw [List.append_assoc, firstOfLabel_append]
    exact List.prefix_append _ _
  · rw [inGroupsAndQuestions_compute, map_label_firstOfLabel]
  · intro language
    rw [hcommon.mem_iff, hquestions.mem_iff, hanswers.mem_iff, ← and_and_left]

end

end Questionnaire.LanguagesAvailable
