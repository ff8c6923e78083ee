import Mathlib.Data.List.Basic
import Questionnaire.Proofs.Text.JoinedWords
import Questionnaire.QuestionType.Specification

/-!
# Cells read word by word

The type at the start of a cell is searched for character by character: it is the longest spelling
that ends where the cell does or in front of a space. Since no spelling has more than two words,
this is the type that the first two words spell, or else the type that the first word spells. So a
cell is read as its words say, whatever blanks separate them.

Main definitions:

* `QuestionType.Named`: the type that words begin with, and the words behind it.
* `TypeSpec.words`: the words of a cell.
* `TypeSpec.ReadAs`: what words are read as.

Results:

* `QuestionType.longestOf_spec`: no spelling at the start is longer than the one that is found.
* `QuestionType.leading?_joinWith_iff`: the type at the start of joined words.
* `TypeSpec.parse_iff_readAs`: a cell is read as its words say.
-/

namespace Questionnaire

/-! ## Words of a cell -/

namespace TypeSpec

/-- Separates the words of a type cell. -/
def isSeparator (c : Char) : Bool := c = ' ' || c = '\t'

/-- The words of a cell: the parts between spaces and tabs that are not empty. -/
def words (text : String) : List String :=
  ((text.toList.splitOnP isSeparator).filter fun part => !part.isEmpty).map String.ofList

theorem words_eq_wordsBy (text : String) :
    words text = (Text.wordsBy isSeparator text.toList).map String.ofList := by
  rw [words, Text.wordsBy_eq_filter_splitOnP]

theorem isWord_of_mem_words {text word : String} (h : word ∈ words text) :
    Text.IsWord isSeparator word := by
  rw [words_eq_wordsBy] at h
  obtain ⟨cs, hcs, rfl⟩ := List.mem_map.1 h
  refine ⟨fun hempty => Text.ne_nil_of_mem_wordsBy cs hcs ?_, ?_⟩
  · exact String.ofList_eq_empty_iff.1 hempty
  · rw [String.toList_ofList]
    exact Text.not_sep_of_mem_wordsBy cs hcs

theorem normalize_eq_joinWith (text : String) :
    normalize text = Text.joinWith " " (words text) := by
  rw [words_eq_wordsBy]
  rfl

theorem words_joinWith {front : List String} (h : ∀ word ∈ front, Text.IsWord isSeparator word) :
    words (Text.joinWith " " front) = front := by
  rw [words_eq_wordsBy, Text.wordsBy_joinWith (by decide) h]
  simp [List.map_map, Function.comp_def]

/-- The words behind a type are separated by spaces alone. -/
theorem wordsBy_space_joinWith {front : List String}
    (h : ∀ word ∈ front, Text.IsWord isSeparator word) :
    (Text.wordsBy (· = ' ') (Text.joinWith " " front).toList).map String.ofList = front := by
  rw [Text.wordsBy_joinWith (by decide) fun word hm => (h word hm).mono fun c hc => by
    simp [isSeparator, hc]]
  simp [List.map_map, Function.comp_def]

end TypeSpec

namespace QuestionType

/-! ## The longest spelling at the start -/

theorem behind?_eq_some_iff {spelling : String} {cs rest : List Char} :
    behind? spelling cs = some rest ↔
      cs = spelling.toList ∧ rest = [] ∨ cs = spelling.toList ++ ' ' :: rest := by
  have hdrop (tail : List Char) :
      Text.dropPrefix? spelling.toList cs = some tail ↔ cs = spelling.toList ++ tail :=
    Text.dropPrefix?_eq_some_iff
  unfold behind?
  split
  · rename_i h
    simp [(hdrop []).1 h, eq_comm]
  · rename_i tail h
    simp [(hdrop (' ' :: tail)).1 h]
  · rename_i hend hspace
    simp only [reduceCtorEq, false_iff, not_or, not_and]
    exact ⟨fun h => absurd ((hdrop []).2 (by rw [h, List.append_nil])) hend,
      fun h => hspace rest ((hdrop (' ' :: rest)).2 h)⟩

theorem longestOf_eq_none_iff {entries : List (String × QuestionType)} {cs : List Char} :
    longestOf entries cs = none ↔ ∀ entry ∈ entries, behind? entry.1 cs = none := by
  fun_induction longestOf entries cs with
  | case1 => simp
  | case2 spelling type entries cs hnone ih => simp [hnone, ih]
  | case3 spelling type entries cs rest _ hrest => simp [hrest]
  | case4 spelling type entries cs rest best _ hrest => simp [hrest]
  | case5 spelling type entries cs rest best _ hrest => simp [hrest]

/-- What is found among the entries stands at the start, and nothing longer does. -/
theorem longestOf_spec {entries : List (String × QuestionType)} {cs rest : List Char}
    {spelling : String} {type : QuestionType}
    (h : longestOf entries cs = some (spelling, type, rest)) :
    (spelling, type) ∈ entries ∧ behind? spelling cs = some rest ∧
      ∀ entry ∈ entries, (behind? entry.1 cs).isSome = true →
        entry.1.length ≤ spelling.length := by
  fun_induction longestOf entries cs generalizing spelling type rest with
  | case1 => cases h
  | case2 first firstType entries cs hnone ih =>
    obtain ⟨hmem, hrest, hlongest⟩ := ih h
    exact ⟨List.mem_cons_of_mem _ hmem, hrest, List.forall_mem_cons.2 ⟨by simp [hnone], hlongest⟩⟩
  | case3 first firstType entries cs rest hnone hrest =>
    cases h
    refine ⟨List.mem_cons_self, hrest, List.forall_mem_cons.2 ⟨fun _ => Nat.le_refl _, ?_⟩⟩
    intro entry hm hsome
    rw [longestOf_eq_none_iff.1 hnone entry hm] at hsome
    cases hsome
  | case4 first firstType entries cs _ best hbest hfirst hlt ih =>
    cases h
    obtain ⟨hmem, hrest, hlongest⟩ := ih hbest
    exact ⟨List.mem_cons_of_mem _ hmem, hrest,
      List.forall_mem_cons.2 ⟨fun _ => Nat.le_of_lt hlt, hlongest⟩⟩
  | case5 first firstType entries cs rest best hbest hrest hlt ih =>
    cases h
    obtain ⟨-, -, hlongest⟩ := ih hbest
    refine ⟨List.mem_cons_self, hrest, List.forall_mem_cons.2 ⟨fun _ => Nat.le_refl _, ?_⟩⟩
    exact fun entry hm hsome => Nat.le_trans (hlongest entry hm hsome) (Nat.le_of_not_lt hlt)

/-! ## Spellings of words -/

/-- A spelling has one type, and it is one word or two. -/
theorem spelling_shape : ∀ entry ∈ spellings,
    ofSpelling? entry.1 = some entry.2 ∧
      Text.joinWith " " (TypeSpec.words entry.1) = entry.1 ∧
      (TypeSpec.words entry.1).length ∈ [1, 2] := by
  decide +kernel

/-- No two types are spelled alike. -/
theorem eq_of_mem_spellings {spelling : String} {type other : QuestionType}
    (h : (spelling, type) ∈ spellings) (hother : (spelling, other) ∈ spellings) : type = other :=
  Option.some.inj ((spelling_shape _ h).1.symm.trans (spelling_shape _ hother).1)

theorem exists_words_of_mem {spelling : String} {type : QuestionType}
    (h : (spelling, type) ∈ spellings) :
    ∃ front, (∀ word ∈ front, Text.IsWord TypeSpec.isSeparator word) ∧
      spelling = Text.joinWith " " front ∧
      ((∃ first, front = [first]) ∨ ∃ first second, front = [first, second]) := by
  obtain ⟨-, hjoin, hlength⟩ := spelling_shape _ h
  refine ⟨TypeSpec.words spelling, fun _ => TypeSpec.isWord_of_mem_words, hjoin.symm, ?_⟩
  simp only [List.mem_cons, List.not_mem_nil, or_false] at hlength
  exact hlength.imp List.length_eq_one_iff.1 List.length_eq_two.1

theorem behind?_joinWith_iff {front cell : List String} {rest : List Char} (hne : front ≠ [])
    (hfront : ∀ word ∈ front, Text.IsWord TypeSpec.isSeparator word)
    (hcell : ∀ word ∈ cell, Text.IsWord TypeSpec.isSeparator word) :
    behind? (Text.joinWith " " front) (Text.joinWith " " cell).toList = some rest ↔
      ∃ others, cell = front ++ others ∧ rest = (Text.joinWith " " others).toList := by
  have hfrontWords := Text.wordsBy_joinWith (by decide) hfront
  have hcellWords := Text.wordsBy_joinWith (by decide) hcell
  have hspace : " ".toList = [' '] := rfl
  rw [behind?_eq_some_iff]
  constructor
  · rintro (⟨heq, rfl⟩ | heq)
    · rw [heq, hfrontWords, List.map_inj_right fun _ _ => String.toList_inj.1] at hcellWords
      exact ⟨[], by rw [hcellWords, List.append_nil], rfl⟩
    · have hwords := hcellWords
      rw [heq, Text.wordsBy_append_cons_of_sep (by decide), hfrontWords, eq_comm,
        List.map_eq_append_iff] at hwords
      obtain ⟨first, others, rfl, hfirst, -⟩ := hwords
      rw [List.map_inj_right fun _ _ => String.toList_inj.1] at hfirst
      subst hfirst
      refine ⟨others, rfl, ?_⟩
      cases others with
      | nil =>
        have hlength := congrArg List.length heq
        simp at hlength
      | cons second others =>
        rw [Text.joinWith_append " " hne (List.cons_ne_nil _ _), String.toList_append,
          String.toList_append, hspace, List.append_assoc] at heq
        exact (List.cons.inj (List.append_cancel_left heq)).2.symm
  · rintro ⟨others, rfl, rfl⟩
    cases others with
    | nil => exact .inl ⟨by rw [List.append_nil], rfl⟩
    | cons second others =>
      right
      rw [Text.joinWith_append " " hne (List.cons_ne_nil _ _), String.toList_append,
        String.toList_append, hspace, List.append_assoc]
      rfl

/-! ## The type that words begin with -/

/-- The type that words begin with, and the words behind it: the type that the first two words
spell, or else the one that the first word spells. -/
inductive Named : List String → QuestionType → List String → Prop where
  | two {first second : String} {rest : List String} {type : QuestionType}
      (h : (first ++ " " ++ second, type) ∈ spellings) : Named (first :: second :: rest) type rest
  | one {first : String} {rest : List String} {type : QuestionType} (h : (first, type) ∈ spellings)
      (hnot : ∀ second ∈ rest.head?, ∀ other, (first ++ " " ++ second, other) ∉ spellings) :
      Named (first :: rest) type rest

theorem Named.unique {cell rest rest' : List String} {type type' : QuestionType}
    (h : Named cell type rest) (h' : Named cell type' rest') : type = type' ∧ rest = rest' := by
  cases h with
  | two hspelled =>
    cases h' with
    | two hspelled' => exact ⟨eq_of_mem_spellings hspelled hspelled', rfl⟩
    | one _ hnot => exact absurd hspelled (hnot _ rfl _)
  | one hspelled hnot =>
    cases h' with
    | two hspelled' => exact absurd hspelled' (hnot _ rfl _)
    | one hspelled' => exact ⟨eq_of_mem_spellings hspelled hspelled', rfl⟩

theorem Named.exists_front {cell others : List String} {type : QuestionType}
    (h : Named cell type others) : ∃ front, front ≠ [] ∧ cell = front ++ others := by
  cases h with
  | @two first second => exact ⟨[first, second], List.cons_ne_nil _ _, rfl⟩
  | @one first => exact ⟨[first], List.cons_ne_nil _ _, rfl⟩

/-- The first two words stand at the start of the joined words. -/
theorem behind?_two {first second : String} {others : List String}
    (hcell : ∀ word ∈ first :: second :: others, Text.IsWord TypeSpec.isSeparator word) :
    behind? (first ++ " " ++ second) (Text.joinWith " " (first :: second :: others)).toList =
      some (Text.joinWith " " others).toList :=
  (behind?_joinWith_iff (List.cons_ne_nil first [second])
    (fun word hm => hcell word (List.mem_append_left others hm)) hcell).2 ⟨others, rfl, rfl⟩

section

variable {cell : List String} (hcell : ∀ word ∈ cell, Text.IsWord TypeSpec.isSeparator word)
include hcell

/-- The type that words begin with is spelled at the start of the joined words. -/
theorem Named.exists_behind? {type : QuestionType} {others : List String}
    (h : Named cell type others) :
    ∃ spelling, (spelling, type) ∈ spellings ∧
      behind? spelling (Text.joinWith " " cell).toList =
        some (Text.joinWith " " others).toList := by
  cases h with
  | two hspelled => exact ⟨_, hspelled, behind?_two hcell⟩
  | @one first _ _ hspelled =>
    have hfirst : ∀ word ∈ [first], Text.IsWord TypeSpec.isSeparator word :=
      fun word hm => hcell word (List.mem_append_left others hm)
    exact ⟨_, hspelled, (behind?_joinWith_iff (List.cons_ne_nil first []) hfirst hcell).2
      ⟨others, rfl, rfl⟩⟩

/-- A type that is found at the start of the joined words is the one they begin with. -/
theorem named_of_leading? {type : QuestionType} {rest : List Char}
    (h : leading? (Text.joinWith " " cell).toList = some (type, rest)) :
    ∃ others, Named cell type others ∧ rest = (Text.joinWith " " others).toList := by
  obtain ⟨⟨spelling, found⟩, hfound, rfl⟩ := Option.map_eq_some_iff.1 h
  obtain ⟨hmem, hbehind, hlongest⟩ := longestOf_spec hfound
  obtain ⟨front, hfront, rfl, hlength⟩ := exists_words_of_mem hmem
  have hne : front ≠ [] := by
    rintro rfl
    simp at hlength
  obtain ⟨others, rfl, rfl⟩ := (behind?_joinWith_iff hne hfront hcell).1 hbehind
  refine ⟨others, ?_, rfl⟩
  obtain ⟨first, rfl⟩ | ⟨first, second, rfl⟩ := hlength
  · refine .one hmem fun second hsecond other hspelled => ?_
    -- the spelling of two words would stand at the start as well, and it is longer
    obtain ⟨tail, rfl⟩ := List.head?_eq_some_iff.1 hsecond
    have hle := hlongest _ hspelled (Option.isSome_of_eq_some (behind?_two hcell))
    have hspace : " ".length = 1 := rfl
    simp only [Text.joinWith, String.length_append] at hle
    omega
  · exact .two hmem

theorem leading?_joinWith_iff {type : QuestionType} {rest : List Char} :
    leading? (Text.joinWith " " cell).toList = some (type, rest) ↔
      ∃ others, Named cell type others ∧ rest = (Text.joinWith " " others).toList := by
  refine ⟨named_of_leading? hcell, ?_⟩
  rintro ⟨others, hnamed, rfl⟩
  obtain ⟨spelling, hmem, hbehind⟩ := hnamed.exists_behind? hcell
  cases hleading : leading? (Text.joinWith " " cell).toList with
  | none =>
    have hnone := longestOf_eq_none_iff.1 (Option.map_eq_none_iff.1 hleading) _ hmem
    rw [hbehind] at hnone
    cases hnone
  | some found =>
    obtain ⟨others', hnamed', hrest⟩ := named_of_leading? hcell hleading
    obtain ⟨rfl, rfl⟩ := hnamed.unique hnamed'
    rw [← hrest]

end

/-- The key of the type may be followed by options. -/
def takesOptions : QuestionType → Bool
  | .selectOne | .selectMultiple | .rank | .selectOneFromFile | .selectMultipleFromFile => true
  | _ => false

end QuestionType

/-! ## Reading words -/

namespace TypeSpec

open QuestionType (Named)

/-- What the words of a cell are read as. -/
inductive ReadAs : List String → Except TypeError TypeSpec → Prop where
  | empty : ReadAs [] (.error .empty)
  | unknown {cell : List String} (hne : cell ≠ []) (h : ∀ type rest, ¬ Named cell type rest) :
      ReadAs cell (.error (.unknownType (Text.joinWith " " cell)))
  /-- A free answer is added by the last of two or more words. -/
  | selection {cell others : List String} {type : QuestionType} {list : String} {orOther : Bool}
      (htype : type = .selectOne ∨ type = .selectMultiple) (h : Named cell type (list :: others))
      (hother : orOther = true ↔ others.getLast? = some "or_other") :
      ReadAs cell (.ok ⟨type, some (.selection list orOther)⟩)
  | ranking {cell others : List String} {list : String} (h : Named cell .rank (list :: others)) :
      ReadAs cell (.ok ⟨.rank, some (.ranking list)⟩)
  | listMissing {cell : List String} {type : QuestionType}
      (htype : type = .selectOne ∨ type = .selectMultiple ∨ type = .rank)
      (h : Named cell type []) : ReadAs cell (.error (.listMissing type))
  | file {cell others : List String} {type : QuestionType} {name : String}
      (htype : type = .selectOneFromFile ∨ type = .selectMultipleFromFile)
      (h : Named cell type (name :: others)) : ReadAs cell (.ok ⟨type, some (.file name)⟩)
  | fileMissing {cell : List String} {type : QuestionType}
      (htype : type = .selectOneFromFile ∨ type = .selectMultipleFromFile)
      (h : Named cell type []) : ReadAs cell (.error (.fileMissing type))
  | plain {cell rest : List String} {type : QuestionType} (htype : type.takesOptions = false)
      (h : Named cell type rest) : ReadAs cell (.ok ⟨type, none⟩)

theorem parse_of_words_eq_nil {text : String} (h : words text = []) :
    parse text = .error .empty := by
  simp only [parse, normalize_eq_joinWith, h, Text.joinWith, if_true]

theorem normalize_ne_empty {text : String} (h : words text ≠ []) : normalize text ≠ "" := by
  rw [normalize_eq_joinWith]
  intro hempty
  have hwords := words_joinWith fun word (hm : word ∈ words text) => isWord_of_mem_words hm
  rw [hempty] at hwords
  exact h hwords.symm

theorem parse_of_not_named {text : String} (hne : words text ≠ [])
    (h : ∀ type rest, ¬ Named (words text) type rest) :
    parse text = .error (.unknownType (Text.joinWith " " (words text))) := by
  have hleading : QuestionType.leading? (normalize text).toList = none := by
    rw [normalize_eq_joinWith, Option.eq_none_iff_forall_ne_some]
    rintro ⟨type, rest⟩ hsome
    obtain ⟨others, hnamed, -⟩ :=
      (QuestionType.leading?_joinWith_iff fun _ => isWord_of_mem_words).1 hsome
    exact h type others hnamed
  simp only [parse, if_neg (normalize_ne_empty hne), hleading]
  rw [normalize_eq_joinWith]

theorem parse_of_named {text : String} {type : QuestionType} {others : List String}
    (h : Named (words text) type others) :
    parse text = (readOptions type others).map fun options => ⟨type, options⟩ := by
  obtain ⟨front, hfront, hcell⟩ := h.exists_front
  have hne : words text ≠ [] := by
    rw [hcell]
    exact List.append_ne_nil_of_left_ne_nil hfront _
  have hothers (word : String) (hm : word ∈ others) : Text.IsWord isSeparator word :=
    isWord_of_mem_words (hcell ▸ List.mem_append_right front hm)
  have hleading : QuestionType.leading? (normalize text).toList =
      some (type, (Text.joinWith " " others).toList) := by
    rw [normalize_eq_joinWith]
    exact (QuestionType.leading?_joinWith_iff fun _ => isWord_of_mem_words).2 ⟨others, h, rfl⟩
  simp only [parse, if_neg (normalize_ne_empty hne), hleading]
  rw [wordsBy_space_joinWith hothers]

theorem endsInOrOther_cons_iff {list : String} {others : List String} :
    endsInOrOther (list :: others) = true ↔ others.getLast? = some "or_other" := by
  cases others <;> simp [endsInOrOther]

/-- A cell is read as its words say. -/
theorem parse_of_readAs {text : String} {result : Except TypeError TypeSpec}
    (h : ReadAs (words text) result) : parse text = result := by
  generalize hcell : words text = cell at h
  cases h with
  | empty => exact parse_of_words_eq_nil hcell
  | unknown hne h => subst hcell; exact parse_of_not_named hne h
  | @selection _ others _ list orOther htype h hother =>
    subst hcell
    have hends : endsInOrOther (list :: others) = orOther := by
      rw [Bool.eq_iff_iff, endsInOrOther_cons_iff, hother]
    rw [parse_of_named h, ← hends]
    obtain rfl | rfl := htype <;> rfl
  | ranking h => subst hcell; exact parse_of_named h
  | listMissing htype h =>
    subst hcell
    rw [parse_of_named h]
    obtain rfl | rfl | rfl := htype <;> rfl
  | file htype h =>
    subst hcell
    rw [parse_of_named h]
    obtain rfl | rfl := htype <;> rfl
  | fileMissing htype h =>
    subst hcell
    rw [parse_of_named h]
    obtain rfl | rfl := htype <;> rfl
  | @plain _ _ type htype h =>
    subst hcell
    rw [parse_of_named h]
    cases type with
    | selectOne | selectMultiple | rank | selectOneFromFile | selectMultipleFromFile => cases htype
    | _ => rfl

theorem exists_readAs (cell : List String) : ∃ result, ReadAs cell result := by
  by_cases hne : cell = []
  · subst hne
    exact ⟨_, .empty⟩
  by_cases hnamed : ∃ type rest, Named cell type rest
  · obtain ⟨type, rest, h⟩ := hnamed
    cases type with
    | selectOne | selectMultiple =>
      cases rest with
      | nil => exact ⟨_, .listMissing (by decide) h⟩
      | cons list others => exact ⟨_, .selection (by decide) h decide_eq_true_iff⟩
    | rank =>
      cases rest with
      | nil => exact ⟨_, .listMissing (by decide) h⟩
      | cons list others => exact ⟨_, .ranking h⟩
    | selectOneFromFile | selectMultipleFromFile =>
      cases rest with
      | nil => exact ⟨_, .fileMissing (by decide) h⟩
      | cons name others => exact ⟨_, .file (by decide) h⟩
    | _ => exact ⟨_, .plain rfl h⟩
  · exact ⟨_, .unknown hne fun type rest h => hnamed ⟨type, rest, h⟩⟩

/-- What a cell is read as is what its words say. -/
theorem readAs_parse (text : String) : ReadAs (words text) (parse text) := by
  obtain ⟨result, h⟩ := exists_readAs (words text)
  rw [parse_of_readAs h]
  exact h

/-- A cell is read as its words say, whatever blanks separate them. -/
theorem parse_iff_readAs (text : String) :
    (∀ result, parse text = result ↔ ReadAs (words text) result) ∧
      ∀ other, words other = words text → parse other = parse text := by
  obtain ⟨found, hfound⟩ := exists_readAs (words text)
  have hparse := parse_of_readAs hfound
  refine ⟨fun result => ⟨?_, parse_of_readAs⟩, fun other hwords => ?_⟩
  · rintro rfl
    rw [hparse]
    exact hfound
  · rw [hparse]
    exact parse_of_readAs (by rw [hwords]; exact hfound)

example : parse " end\t group  meals" = .ok ⟨.endGroup, none⟩ := by decide +kernel

end TypeSpec

end Questionnaire
