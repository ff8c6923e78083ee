import Questionnaire.Proofs.QuestionType.Words
import Questionnaire.Text.Blank

/-!
# Written types

A type that was read from a cell is written as words with single spaces between them: the key of
the type, and the words of its options. These words are read as the same type again. No spelling
that goes on behind a key with a space can be mistaken for the key and its options, because `end` is
the only key that is continued so, and it takes no options.

Main definitions:

* `TypeSpec.Proper`: a type with the options that it takes.

Results:

* `QuestionType.named_key`: a key alone names its type.
* `QuestionType.named_key_cons`: so does any key but `end`, whatever follows.
* `TypeSpec.exists_parse_unknown_iff`: a cell names the unknown type when its first word does.
* `TypeSpec.proper_of_parse`, `TypeSpec.Proper.parse_text`: the types that are read from cells are
  proper, and proper types are written and read again unchanged.
* `TypeSpec.parse_text_iff`: only they are.
-/

namespace Questionnaire

/-! ## Keys among words -/

namespace QuestionType

theorem isWord_key (type : QuestionType) : Text.IsWord Text.isBlank type.key := by
  have hall : ∀ type ∈ all, Text.IsWord Text.isBlank type.key := by
    decide +kernel
  exact hall type type.mem_all

theorem key_mem_spellings (type : QuestionType) : (type.key, type) ∈ spellings :=
  List.mem_flatMap.2 ⟨type, mem_all type, List.mem_map_of_mem List.mem_cons_self⟩

theorem named_key (type : QuestionType) : Named [type.key] type [] :=
  .one type.key_mem_spellings nofun

/-- Only `end` goes on behind a space as another spelling. -/
theorem spellings_not_extend_key {type : QuestionType} (htype : type ≠ .endTime) :
    ∀ entry ∈ spellings, Text.dropPrefix? (type.key.toList ++ [' ']) entry.1.toList = none := by
  have hall : ∀ type ∈ all, type ≠ .endTime → ∀ entry ∈ spellings,
      Text.dropPrefix? (type.key.toList ++ [' ']) entry.1.toList = none := by
    decide +kernel
  exact hall type type.mem_all htype

/-- Any other key names its type, whatever follows. -/
theorem named_key_cons (type : QuestionType) (htype : type ≠ .endTime) (others : List String) :
    Named (type.key :: others) type others := by
  refine .one type.key_mem_spellings fun second _ other hspelled => ?_
  have hnone := spellings_not_extend_key htype _ hspelled
  have hspace : " ".toList = [' '] := rfl
  have hsome : Text.dropPrefix? (type.key.toList ++ [' ']) (type.key ++ " " ++ second).toList =
      some second.toList :=
    Text.dropPrefix?_eq_some_iff.2 (by rw [String.toList_append, String.toList_append, hspace])
  rw [hsome] at hnone
  cases hnone

/-- The unknown type has a single spelling, its key. -/
theorem eq_of_spells_unknown {spelling : String} (h : (spelling, .unknown) ∈ spellings) :
    spelling = "unknown" := by
  have hall : ∀ entry ∈ spellings, entry.2 = .unknown → entry.1 = "unknown" := by
    decide +kernel
  exact hall _ h rfl

theorem named_unknown_iff {cell others : List String} :
    Named cell .unknown others ↔ cell = "unknown" :: others := by
  constructor
  · intro h
    cases h with
    | @two first second _ _ hspelled =>
      have hspace : ' ' ∈ (first ++ " " ++ second).toList := by simp
      rw [eq_of_spells_unknown hspelled] at hspace
      exact absurd hspace (by decide)
    | one hspelled => rw [eq_of_spells_unknown hspelled]
  · rintro rfl
    exact named_key_cons .unknown (by decide) others

end QuestionType

/-! ## Types read again -/

namespace TypeSpec

/-- The words that the options are written as. -/
def optionWords : Option TypeOptions → List String
  | none => []
  | some (.selection list orOther) => list :: if orOther then ["or_other"] else []
  | some (.ranking list) => [list]
  | some (.file name) => [name]

theorem text_eq_joinWith (spec : TypeSpec) :
    spec.text = Text.joinWith " " (spec.type.key :: optionWords spec.options) := by
  obtain ⟨type, options⟩ := spec
  rw [text]
  cases options with
  | none => rw [optionsText, optionWords, Text.joinWith, String.append_empty]
  | some options =>
    cases options with
    | selection list orOther =>
      cases orOther <;> simp [optionsText, optionWords, Text.joinWith, String.append_assoc]
    | ranking list => simp [optionsText, optionWords, Text.joinWith, String.append_assoc]
    | file name => simp [optionsText, optionWords, Text.joinWith, String.append_assoc]

theorem isBlank_of_isSeparator {c : Char} (h : isSeparator c = true) : Text.isBlank c = true := by
  simp only [isSeparator, Bool.or_eq_true, decide_eq_true_eq] at h
  obtain rfl | rfl := h <;> decide

/-! ## Proper types -/

/-- The type has the options that it takes, and words name its list or its file. -/
inductive Proper : TypeSpec → Prop where
  | selection {type : QuestionType} {list : String} {orOther : Bool}
      (htype : type = .selectOne ∨ type = .selectMultiple) (hlist : Text.IsWord isSeparator list) :
      Proper ⟨type, some (.selection list orOther)⟩
  | ranking {list : String} (hlist : Text.IsWord isSeparator list) :
      Proper ⟨.rank, some (.ranking list)⟩
  | file {type : QuestionType} {name : String}
      (htype : type = .selectOneFromFile ∨ type = .selectMultipleFromFile)
      (hname : Text.IsWord isSeparator name) : Proper ⟨type, some (.file name)⟩
  | plain {type : QuestionType} (htype : type.takesOptions = false) : Proper ⟨type, none⟩

/-- What the words of a cell are read as is proper. -/
theorem proper_of_readAs {cell : List String} {spec : TypeSpec} (h : ReadAs cell (.ok spec))
    (hcell : ∀ word ∈ cell, Text.IsWord isSeparator word) : spec.Proper := by
  have hfirst {type : QuestionType} {word : String} {others : List String}
      (hnamed : QuestionType.Named cell type (word :: others)) : Text.IsWord isSeparator word := by
    obtain ⟨front, -, rfl⟩ := hnamed.exists_front
    exact hcell word (List.mem_append_right front List.mem_cons_self)
  cases h with
  | selection htype hnamed => exact .selection htype (hfirst hnamed)
  | ranking hnamed => exact .ranking (hfirst hnamed)
  | file htype hnamed => exact .file htype (hfirst hnamed)
  | plain htype => exact .plain htype

theorem proper_of_parse {raw : String} {spec : TypeSpec} (h : parse raw = .ok spec) :
    spec.Proper := by
  have hread : ReadAs (words raw) (parse raw) := readAs_parse raw
  rw [h] at hread
  exact proper_of_readAs hread fun word => isWord_of_mem_words

namespace Proper

variable {spec : TypeSpec} (h : spec.Proper)

include h

theorem isWord_of_mem_optionWords :
    ∀ word ∈ optionWords spec.options, Text.IsWord isSeparator word := by
  intro word hm
  cases h with
  | @selection _ list orOther _ hlist =>
    cases orOther with
    | false =>
      obtain rfl := List.mem_singleton.1 hm
      exact hlist
    | true =>
      obtain rfl | rfl : word = list ∨ word = "or_other" := by simpa [optionWords] using hm
      · exact hlist
      · decide
  | ranking hlist =>
    obtain rfl := List.mem_singleton.1 hm
    exact hlist
  | file _ hname =>
    obtain rfl := List.mem_singleton.1 hm
    exact hname
  | plain => cases hm

/-- The words of a proper type say this type. -/
theorem readAs : ReadAs (spec.type.key :: optionWords spec.options) (.ok spec) := by
  cases h with
  | @selection type list orOther htype =>
    have hne : type ≠ .endTime := by rcases htype with rfl | rfl <;> decide
    exact .selection htype (QuestionType.named_key_cons type hne _) (by cases orOther <;> simp)
  | @ranking list =>
    exact .ranking (QuestionType.named_key_cons .rank (by decide) [list])
  | @file type name htype =>
    have hne : type ≠ .endTime := by rcases htype with rfl | rfl <;> decide
    exact .file htype (QuestionType.named_key_cons type hne [name])
  | @plain type htype => exact .plain htype type.named_key

/-- A proper type is written and read again unchanged. -/
theorem parse_text : parse spec.text = .ok spec := by
  have hkey : Text.IsWord isSeparator spec.type.key :=
    spec.type.isWord_key.mono fun _ => isBlank_of_isSeparator
  have hall := List.forall_mem_cons.2 ⟨hkey, h.isWord_of_mem_optionWords⟩
  have hcell : words spec.text = spec.type.key :: optionWords spec.options := by
    rw [text_eq_joinWith, words_joinWith hall]
  apply parse_of_readAs
  rw [hcell]
  exact h.readAs

/-- A type whose answers come from a list names the list. -/
theorem exists_list (hanswers : spec.type.requiresAnswers = true) :
    ∃ list, spec.list? = some list := by
  cases h with
  | selection | ranking => exact ⟨_, rfl⟩
  | file htype => obtain rfl | rfl := htype <;> cases hanswers
  | @plain type htype =>
    cases type with
    | selectOne | selectMultiple | rank => cases htype
    | _ => cases hanswers

end Proper

/-- A type that takes no options is read from its key. -/
theorem parse_key (type : QuestionType) (h : type.takesOptions = false) :
    parse type.key = .ok ⟨type, none⟩ := by
  have htext : (⟨type, none⟩ : TypeSpec).text = type.key := String.append_empty
  rw [← htext]
  exact (Proper.plain h).parse_text

/-- A cell names the unknown type when its first word does. -/
theorem exists_parse_unknown_iff {text : String} :
    (∃ spec, parse text = .ok spec ∧ spec.type = .unknown) ↔
      (words text).head? = some "unknown" := by
  constructor
  · rintro ⟨spec, hparse, htype⟩
    have hread := readAs_parse text
    rw [hparse] at hread
    generalize words text = cell at hread ⊢
    cases hread with
    | selection h | file h => rcases h with rfl | rfl <;> cases htype
    | ranking => cases htype
    | plain _ hnamed =>
      cases htype
      rw [QuestionType.named_unknown_iff.1 hnamed, List.head?_cons]
  · intro h
    obtain ⟨others, hwords⟩ := List.head?_eq_some_iff.1 h
    have hnamed := QuestionType.named_unknown_iff.2 hwords
    exact ⟨unknown, parse_of_readAs (.plain rfl hnamed), rfl⟩

/-- A type that was read from a cell is written as a text that is read as the same type. The types
of which this is true are those that have the options they take, whatever words name the list or
the file. -/
theorem parse_text_iff (spec : TypeSpec) :
    (∀ raw, parse raw = .ok spec → parse spec.text = .ok spec) ∧
      (parse spec.text = .ok spec ↔ spec.Proper) := by
  constructor
  · intro raw h
    exact (proper_of_parse h).parse_text
  · exact ⟨proper_of_parse, Proper.parse_text⟩

-- a list may be called like the word behind it
example : parse (text ⟨.selectOne, some (.selection "or_other" true)⟩) =
    .ok ⟨.selectOne, some (.selection "or_other" true)⟩ := by decide +kernel

end TypeSpec

end Questionnaire
