import Questionnaire.Text.Search
import Questionnaire.Text.Words

/-!
# Joined words

Words that are joined by single spaces come apart into the same words again, whatever else
separates words besides the space.

Results:

* `wordsBy_append_of_sep`: a word ends where a separator or nothing follows.
* `wordsBy_eq_filter_splitOnP`: the words are the parts between separators that are not empty.
* `wordsBy_joinWith`: the words of joined words.
* `joinWith_flatMap`: texts may be joined part by part.
-/

namespace Questionnaire.Text

/-- The text is a word: not empty, and without a separator. -/
def IsWord (sep : Char → Bool) (word : String) : Prop :=
  word ≠ "" ∧ ∀ c ∈ word.toList, sep c = false

theorem isWord_iff {sep : Char → Bool} {word : String} :
    IsWord sep word ↔ word ≠ "" ∧ word.toList.all (fun c => !sep c) = true := by
  simp [IsWord]

instance (sep : Char → Bool) (word : String) : Decidable (IsWord sep word) :=
  decidable_of_iff _ isWord_iff.symm

theorem IsWord.mono {sep other : Char → Bool} {word : String} (hword : IsWord sep word)
    (h : ∀ c, other c = true → sep c = true) : IsWord other word := by
  refine ⟨hword.1, fun c hc => Bool.eq_false_iff.2 fun hother => ?_⟩
  have hsep := hword.2 c hc
  rw [h c hother] at hsep
  cases hsep

theorem wordsBy_cons_of_sep {sep : Char → Bool} {c : Char} (hc : sep c = true) (cs : List Char) :
    wordsBy sep (c :: cs) = wordsBy sep cs := by
  cases cs with
  | nil => simp [wordsBy, hc]
  | cons d ds => rw [wordsBy, if_pos hc]

theorem wordsBy_append_of_sep {sep : Char → Bool} {word rest : List Char} (hne : word ≠ [])
    (hword : ∀ c ∈ word, sep c = false) (hrest : ∀ c, rest.head? = some c → sep c = true) :
    wordsBy sep (word ++ rest) = word :: wordsBy sep rest := by
  induction word with
  | nil => exact absurd rfl hne
  | cons a word ih =>
    have ha : sep a = false := hword a List.mem_cons_self
    cases word with
    | nil =>
      cases rest with
      | nil => simp [wordsBy, ha]
      | cons c cs => simp [wordsBy, ha, hrest c rfl]
    | cons b word =>
      have hb : sep b = false := hword b (List.mem_cons_of_mem _ List.mem_cons_self)
      have ih := ih (List.cons_ne_nil _ _) fun c hc => hword c (List.mem_cons_of_mem _ hc)
      rw [List.cons_append] at ih
      rw [List.cons_append, List.cons_append, wordsBy, ih]
      simp [ha, hb]

/-- The words are the parts between separators that are not empty. -/
theorem wordsBy_eq_filter_splitOnP (sep : Char → Bool) (cs : List Char) :
    wordsBy sep cs = (cs.splitOnP sep).filter fun part => !part.isEmpty := by
  fun_induction wordsBy sep cs with
  | case1 => rw [List.splitOnP_nil]; rfl
  | case2 c h => simp [List.splitOnP_cons_eq_if_modifyHead, h, List.splitOnP_nil]
  | case3 c h => simp [List.splitOnP_cons_eq_if_modifyHead, h, List.splitOnP_nil]
  | case4 c d cs h ih =>
    rw [List.splitOnP_cons_eq_if_modifyHead c, if_pos h, ih]
    rfl
  | case5 c d cs hc hd ih =>
    rw [ih]
    simp [List.splitOnP_cons_eq_if_modifyHead, hc, hd]
  | case6 c d cs hc hd hnil ih =>
    obtain ⟨first, parts, hparts⟩ := List.exists_cons_of_ne_nil (List.splitOnP_ne_nil sep cs)
    simp [List.splitOnP_cons_eq_if_modifyHead, hnil, hd, hparts] at ih
  | case7 c d cs hc hd word words hwords ih =>
    obtain ⟨first, parts, hparts⟩ := List.exists_cons_of_ne_nil (List.splitOnP_ne_nil sep cs)
    have hsplit : (d :: cs).splitOnP sep = (d :: first) :: parts := by
      simp [List.splitOnP_cons_eq_if_modifyHead, hd, hparts]
    rw [hwords, hsplit] at ih
    obtain ⟨rfl, rfl⟩ := List.cons.inj ih
    rw [List.splitOnP_cons_eq_if_modifyHead, if_neg hc, hsplit]
    rfl

theorem wordsBy_append_cons_of_sep {sep : Char → Bool} {c : Char} (hc : sep c = true)
    (cs rest : List Char) :
    wordsBy sep (cs ++ c :: rest) = wordsBy sep cs ++ wordsBy sep rest := by
  simp only [wordsBy_eq_filter_splitOnP]
  rw [List.splitOnP_append_cons cs rest hc, List.filter_append]

theorem toList_joinWith_cons_cons (separator first second : String) (rest : List String) :
    (joinWith separator (first :: second :: rest)).toList =
      first.toList ++ (separator.toList ++ (joinWith separator (second :: rest)).toList) := by
  rw [joinWith, String.toList_append, String.toList_append, List.append_assoc]

theorem wordsBy_joinWith {sep : Char → Bool} (hsep : sep ' ' = true) {words : List String}
    (h : ∀ word ∈ words, IsWord sep word) :
    wordsBy sep (joinWith " " words).toList = words.map String.toList := by
  induction words with
  | nil => rfl
  | cons first words ih =>
    obtain ⟨hne, hfirst⟩ := h first List.mem_cons_self
    have hne : first.toList ≠ [] := fun h => hne (String.toList_inj.1 h)
    have ih := ih fun word hm => h word (List.mem_cons_of_mem _ hm)
    cases words with
    | nil =>
      have hend : wordsBy sep (first.toList ++ []) = [first.toList] :=
        wordsBy_append_of_sep hne hfirst nofun
      rw [List.append_nil] at hend
      exact hend
    | cons second words =>
      have hspace : " ".toList = [' '] := rfl
      rw [toList_joinWith_cons_cons, hspace, List.singleton_append,
        wordsBy_append_of_sep hne hfirst (by simpa using hsep), wordsBy_cons_of_sep hsep, ih]
      rfl

/-! ## Joined parts -/

theorem joinWith_append (separator : String) {front rest : List String} (hfront : front ≠ [])
    (hrest : rest ≠ []) :
    joinWith separator (front ++ rest) =
      joinWith separator front ++ separator ++ joinWith separator rest := by
  induction front with
  | nil => exact absurd rfl hfront
  | cons first front ih =>
    cases front with
    | nil =>
      obtain ⟨next, rest, rfl⟩ := List.exists_cons_of_ne_nil hrest
      rfl
    | cons second front =>
      have ih := ih (List.cons_ne_nil _ _)
      rw [List.cons_append] at ih
      rw [List.cons_append, List.cons_append, joinWith, ih, joinWith]
      simp only [String.append_assoc]

/-- Texts may be joined part by part. -/
theorem joinWith_flatMap {α : Type} (separator : String) {texts : α → List String}
    (h : ∀ part, texts part ≠ []) (parts : List α) :
    joinWith separator (parts.flatMap texts) =
      joinWith separator (parts.map fun part => joinWith separator (texts part)) := by
  induction parts with
  | nil => rfl
  | cons first parts ih =>
    cases parts with
    | nil => rw [List.flatMap_cons, List.flatMap_nil, List.append_nil]; rfl
    | cons second parts =>
      have hrest : (second :: parts).flatMap texts ≠ [] := fun hnil =>
        h second (List.flatMap_eq_nil_iff.1 hnil second List.mem_cons_self)
      rw [List.flatMap_cons, joinWith_append separator (h first) hrest, ih]
      rfl

end Questionnaire.Text
