/-!
# Words

The words of a text are its longest parts without a separator.

Results:

* `not_sep_of_mem_wordsBy`: no word holds a separator.
* `ne_nil_of_mem_wordsBy`: no word is empty.
-/

namespace Questionnaire.Text

/-- The words of a text, separated by the characters that satisfy `sep`. -/
def wordsBy (sep : Char → Bool) : List Char → List (List Char)
  | [] => []
  | [c] => if sep c then [] else [[c]]
  | c :: d :: cs =>
    if sep c then wordsBy sep (d :: cs)
    else if sep d then [c] :: wordsBy sep (d :: cs)
    else
      match wordsBy sep (d :: cs) with
      | [] => [[c]]
      | word :: words => (c :: word) :: words

theorem not_sep_of_mem_wordsBy {sep : Char → Bool} {cs : List Char} :
    ∀ word ∈ wordsBy sep cs, ∀ c ∈ word, sep c = false := by
  fun_induction wordsBy sep cs with
  | case1 => simp
  | case2 => simp
  | case3 c h => simpa using h
  | case4 _ _ _ _ ih => exact ih
  | case5 c d cs h _ ih =>
    simp only [List.mem_cons, forall_eq_or_imp, List.not_mem_nil, false_implies, implies_true,
      and_true]
    exact ⟨by simpa using h, ih⟩
  | case6 c d cs h => simpa using h
  | case7 c d cs h _ word words heq ih =>
    rw [heq] at ih
    simp only [List.mem_cons, forall_eq_or_imp] at ih ⊢
    exact ⟨⟨by simpa using h, ih.1⟩, ih.2⟩

theorem ne_nil_of_mem_wordsBy {sep : Char → Bool} {cs : List Char} :
    ∀ word ∈ wordsBy sep cs, word ≠ [] := by
  fun_induction wordsBy sep cs with
  | case1 => simp
  | case2 => simp
  | case3 => simp
  | case4 _ _ _ _ ih => exact ih
  | case5 _ _ _ _ _ ih => simpa using ih
  | case6 => simp
  | case7 c d cs _ _ word words heq ih =>
    rw [heq] at ih
    simp only [List.mem_cons, forall_eq_or_imp] at ih ⊢
    exact ⟨List.cons_ne_nil _ _, ih.2⟩

end Questionnaire.Text
