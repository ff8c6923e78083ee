import Questionnaire.Proofs.Draft.Workbook
import Questionnaire.Proofs.QuestionType.Written

/-!
# Lines of a draft

What the rows of the survey worksheet say is fit for cells: every text is tidy, also the written
type of a question, from which the type is read again.

Results:

* `TypeSpec.WellFormed.parse_text`: the type of a question is read from its text.
* `Outline.lines_wellFormed`: the lines of a well-formed outline.
-/

namespace Questionnaire

theorem Text.tidy_joinWith {words : List String} (h : ∀ word ∈ words, IsWord isBlank word)
    (hne : words ≠ []) : Tidy (joinWith " " words) := by
  induction words with
  | nil => exact absurd rfl hne
  | cons first words ih =>
    obtain ⟨hfirst, hblank⟩ := h first List.mem_cons_self
    cases words with
    | nil => exact tidy_of_not_isBlank hfirst hblank
    | cons second words =>
      have ih := ih (fun word hm => h word (List.mem_cons_of_mem _ hm)) (List.cons_ne_nil _ _)
      rw [joinWith, String.append_assoc]
      exact (tidy_of_not_isBlank hfirst hblank).append ih " "

/-! ## Types -/

namespace TypeSpec

theorem eq_name_of_mem_optionWords {options : TypeOptions} {word : String}
    (h : word ∈ optionWords (some options)) : word = options.name ∨ word = "or_other" := by
  cases options with
  | selection list orOther =>
    simp only [optionWords, List.mem_cons] at h
    obtain h | h := h
    · exact .inl h
    · split at h
      · exact .inr (List.mem_singleton.1 h)
      · cases h
  | ranking list => exact .inl (List.mem_singleton.1 h)
  | file name => exact .inl (List.mem_singleton.1 h)

namespace WellFormed

variable {type : TypeSpec}

theorem isWord (h : type.WellFormed) :
    ∀ word ∈ optionWords type.options, Text.IsWord Text.isBlank word := by
  intro word hm
  have hother : Text.IsWord Text.isBlank "or_other" := by decide
  obtain ⟨text, htext⟩ := h.parsed
  have hword := (proper_of_parse htext).isWord_of_mem_optionWords word hm
  cases hoptions : type.options with
  | none => rw [hoptions] at hm; cases hm
  | some options =>
    rw [hoptions] at hm
    obtain rfl | rfl := eq_name_of_mem_optionWords hm
    · exact ⟨hword.1, h.not_isBlank options hoptions⟩
    · exact hother

theorem parse_text (h : type.WellFormed) : TypeSpec.parse type.text = .ok type := by
  obtain ⟨text, htext⟩ := h.parsed
  exact (proper_of_parse htext).parse_text

theorem tidy_text (h : type.WellFormed) : Text.Tidy type.text := by
  rw [text_eq_joinWith]
  refine Text.tidy_joinWith (fun word hm => ?_) (List.cons_ne_nil _ _)
  obtain rfl | hm := List.mem_cons.1 hm
  · exact type.type.isWord_key
  · exact h.isWord word hm

/-- A type with answers names its list. -/
theorem exists_list (h : type.WellFormed) (hanswers : type.type.requiresAnswers = true) :
    ∃ list, type.list? = some list := by
  obtain ⟨text, htext⟩ := h.parsed
  exact (proper_of_parse htext).exists_list hanswers

end WellFormed

end TypeSpec

/-! ## Lines -/

structure Line.WellFormed (line : Line) (languages : List String) : Prop where
  type : Text.Tidy line.type
  name : TidyIfPresent line.name
  relevant : TidyIfPresent line.relevant
  label : line.label.WrittenIn languages

theorem Localized.blank_writtenIn (languages : List String) :
    (Localized.blank languages).WrittenIn languages := by
  refine ⟨?_, fun entry hm => ?_⟩
  · rw [blank, List.map_map]
    rfl
  · obtain ⟨language, -, rfl⟩ := List.mem_map.1 hm
    exact nofun

theorem tidy_key (type : QuestionType) : Text.Tidy type.key :=
  Text.tidy_of_not_isBlank type.isWord_key.1 type.isWord_key.2

theorem Outline.lines_wellFormed {languages : List String} {outline : Outline}
    (h : outline.WellFormed languages) :
    ∀ line ∈ outline.lines languages, line.WellFormed languages := by
  induction outline with
  | nil => exact nofun
  | group g inner rest ihInner ihRest =>
    obtain ⟨hgroup, hinner, hrest⟩ := h
    intro line hm
    rw [lines, List.mem_cons, List.mem_append, List.mem_cons] at hm
    obtain rfl | hm | rfl | hm := hm
    · exact ⟨tidy_key _, hgroup.name, hgroup.relevant, hgroup.label⟩
    · exact ihInner hinner line hm
    · exact ⟨tidy_key _, nofun, nofun, Localized.blank_writtenIn languages⟩
    · exact ihRest hrest line hm
  | question q rest ih =>
    obtain ⟨hquestion, hrest⟩ := h
    intro line hm
    rw [lines, List.mem_cons] at hm
    obtain rfl | hm := hm
    · refine ⟨hquestion.type.tidy_text, ?_, hquestion.relevant, hquestion.label⟩
      rintro s ⟨⟩
      exact hquestion.name
    · exact ih hrest line hm

theorem Outline.lines_ne_nil {languages : List String} {outline : Outline} (h : outline ≠ .nil) :
    outline.lines languages ≠ [] := by
  cases outline with
  | nil => exact absurd rfl h
  | group g inner rest => exact List.cons_ne_nil _ _
  | question q rest => exact List.cons_ne_nil _ _

end Questionnaire
