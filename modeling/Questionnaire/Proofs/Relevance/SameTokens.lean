import Questionnaire.Proofs.Relevance.Sentence
import Questionnaire.Proofs.Relevance.SpacedTokens

/-!
# Expressions of the same tokens

Blanks only separate tokens, and none of them counts around an expression. So two expressions of the
same tokens are put into the same words, however they are spaced, with one exception: an expression
without a condition is known by its characters, and `true()` is not known any more when a blank
stands in it.

Results:

* `tokenize_trim`: blanks around an expression do not count for its tokens.
* `trim_eq_empty_iff`: only a blank expression has no tokens.
* `text_phrase_eq_iff`: when two expressions of the same tokens have the same text.
* `text_phrase_spacedTrue`: `true()` and `true ()` have not.
-/

namespace Questionnaire.Relevance

/-! ## Blanks behind a text -/

/-- The lexeme of a token is no part of a longer one if more blanks follow in the end. -/
theorem Token.EndsBefore.append_blanks {token : Token} {rest after : List Char}
    (h : token.EndsBefore rest) (hafter : ∀ c ∈ after, Text.isBlank c = true) :
    token.EndsBefore (rest ++ after) := by
  have hhead : ∀ c ∈ (rest ++ after).head?, c ∈ rest.head? ∨ Text.isBlank c = true := by
    intro c hc
    cases rest with
    | nil => exact .inr (hafter c (List.mem_of_head? hc))
    | cons d rest => exact .inl hc
  have hne {c : Char} (hc : Text.isBlank c = false) (hrest : rest.head? ≠ some c) :
      (rest ++ after).head? ≠ some c := by
    intro heq
    obtain hm | hblank := hhead c heq
    · exact hrest hm
    · rw [hc] at hblank
      cases hblank
  have hnot {c : Char} (hc : Text.isBlank c = false) : c ∉ after := by
    intro hm
    rw [hafter c hm] at hc
    cases hc
  cases token with
  | number text => exact fun c hc => (hhead c hc).elim (h c) isNumberPart_of_isBlank
  | word text => exact fun c hc => (hhead c hc).elim (h c) isWordPart_of_isBlank
  | connective connective => exact fun c hc => (hhead c hc).elim (h c) isWordPart_of_isBlank
  | comparison operator => exact fun hoperator => hne (by decide) (h hoperator)
  | symbol char =>
    obtain ⟨hexclamation, hquote, hdollar⟩ := h
    refine ⟨fun hchar => hne (by decide) (hexclamation hchar), fun hchar => ?_, ?_⟩
    · have hblank : Text.isBlank char = false := by
        simp only [isQuote, Bool.or_eq_true, decide_eq_true_eq] at hchar
        obtain rfl | rfl := hchar <;> decide
      simp [hquote hchar, hnot hblank]
    · rintro rfl name hname
      -- the brace behind the dollar is no blank, so it stood there already
      cases rest with
      | nil =>
        have hm : '\x7b' ∈ after := by
          rw [← List.nil_append after, hname]
          exact List.mem_cons_self
        exact absurd (hafter '\x7b' hm) (by decide)
      | cons d rest =>
        obtain ⟨rfl, rfl⟩ := List.cons.inj hname
        simp [hdollar rfl rest rfl, hnot (c := '\x7d') (by decide)]
  | _ => trivial

theorem SplitsInto.append_blanks {cs after : List Char} {tokens : List Token}
    {lexemes : List (List Char)} (h : SplitsInto cs tokens lexemes)
    (hafter : ∀ c ∈ after, Text.isBlank c = true) : SplitsInto (cs ++ after) tokens lexemes := by
  induction h with
  | blank hgap => exact .blank (List.forall_mem_append.2 ⟨hgap, hafter⟩)
  | token hgap hspelled hends _ ih =>
    rw [List.append_assoc]
    exact .token hgap hspelled (hends.append_blanks hafter) ih

theorem tokenizeList_append_blanks (cs : List Char) {after : List Char}
    (hafter : ∀ c ∈ after, Text.isBlank c = true) :
    tokenizeList (cs ++ after) = tokenizeList cs := by
  obtain ⟨lexemes, hsplits⟩ := splitsInto_tokenizeList cs
  exact (hsplits.append_blanks hafter).tokenizeList_eq

/-- Blanks around an expression do not count for its tokens. -/
theorem tokenize_trim (expression : String) :
    tokenize (Text.trim expression) = tokenize expression := by
  obtain ⟨before, after, hbefore, hafter, heq⟩ := Text.exists_surrounded expression.toList
  unfold tokenize
  rw [Text.toList_trim]
  conv_rhs => rw [heq]
  rw [tokenizeList_append_blanks _ hafter, tokenizeList_blanks hbefore]

/-! ## Expressions that say nothing -/

theorem tokenizeList_eq_nil_iff {cs : List Char} :
    tokenizeList cs = [] ↔ ∀ c ∈ cs, Text.isBlank c = true := by
  fun_induction tokenizeList cs with
  | case1 => simp
  | case2 c cs hblank ih => simp [hblank, ih]
  | case3 c cs hblank ih => simp [hblank]

/-- Only a blank expression has no tokens. -/
theorem trim_eq_empty_iff {expression : String} :
    Text.trim expression = "" ↔ tokenize expression = [] := by
  rw [Text.trim, String.ofList_eq_empty_iff, Text.trimList_eq_nil_iff]
  exact tokenizeList_eq_nil_iff.symm

/-- The expression is written `true()`, perhaps with blanks around it. -/
def IsTrue (expression : String) : Prop := Text.trim expression = "true()"

instance (expression : String) : Decidable (IsTrue expression) :=
  inferInstanceAs (Decidable (_ = _))

theorem isWorded_iff {expression : String} :
    IsWorded expression ↔ tokenize expression ≠ [] ∧ ¬ IsTrue expression :=
  and_congr_left' (not_congr trim_eq_empty_iff)

/-! ## The words of the tokens -/

section

variable {expression other : String} (h : tokenize expression = tokenize other) (items : Forest)
  (languages : List Language) (options : Options)

include h

theorem isWorded_congr (htrue : IsTrue expression ↔ IsTrue other) :
    IsWorded expression ↔ IsWorded other := by
  rw [isWorded_iff, isWorded_iff, h, htrue]

theorem finalText_congr (htrue : IsTrue expression ↔ IsTrue other) :
    finalText items options expression = finalText items options other := by
  funext language
  unfold finalText
  rw [tokenize_trim, tokenize_trim, h]
  simp only [isWorded_congr h htrue]

/-- All steps but the first one are made from the tokens. -/
theorem tail_steps_congr (htrue : IsTrue expression ↔ IsTrue other) :
    (phrase items languages options expression).steps.tail =
      (phrase items languages options other).steps.tail := by
  by_cases hworded : IsWorded expression
  · have hother : IsWorded other := (isWorded_congr h htrue).1 hworded
    rw [phrase, if_neg (by rw [not_or]; exact hworded), phrase,
      if_neg (by rw [not_or]; exact hother), tokenize_trim, tokenize_trim, h]
    rfl
  · have hother : ¬ IsWorded other := fun hother => hworded ((isWorded_congr h htrue).2 hother)
    rw [phrase_of_not_isWorded items languages options hworded,
      phrase_of_not_isWorded items languages options hother]

end

/-- Put into words, the tokens of `true()` begin with a word and go on with parentheses. -/
theorem exists_finalText_true {expression : String}
    (htokens : tokenize expression = tokenize "true()") (htrue : ¬ IsTrue expression)
    (items : Forest) (options : Options) (language : Language) :
    ∃ rest, finalText items options expression language = "true" ++ rest := by
  have htrueTokens : tokenize "true()" = [.word "true", .openParen, .closeParen] := by
    decide +kernel
  have hworded : IsWorded expression :=
    isWorded_iff.2 ⟨by rw [htokens, htrueTokens]; exact List.cons_ne_nil _ _, htrue⟩
  have hrendering : lastRendering items options (tokenize expression) language =
      "true" ++ (Reader.openParenMarkup.text ++ (Reader.closeParenMarkup.text ++ "")) := by
    rw [htokens, htrueTokens]
    unfold lastRendering rendering Reader.render
    have hreduced : reduced [.word "true", .openParen, .closeParen] =
        [.word "true", .openParen, .closeParen] := rfl
    rw [hreduced]
    simp only [pieces]
    rfl
  rw [finalText, if_pos hworded, tokenize_trim, hrendering, sentence]
  split
  · exact ⟨_, rfl⟩
  · exact ⟨_, String.append_assoc⟩

/-- The expressions do not say the same if only one of them is written `true()`. -/
theorem finalText_ne_of_isTrue {expression other : String}
    (h : tokenize expression = tokenize other) (htrue : IsTrue expression) (hother : ¬ IsTrue other)
    (items : Forest) (options : Options) (language : Language) :
    finalText items options expression language ≠ finalText items options other language := by
  have htokens : tokenize other = tokenize "true()" := by
    rw [← h, ← tokenize_trim, htrue]
  obtain ⟨rest, hrest⟩ := exists_finalText_true htokens hother items options language
  have halways : finalText items options expression language = alwaysRelevant :=
    if_neg fun hworded => hworded.2 htrue
  rw [halways, hrest]
  intro heq
  have hhead := congrArg (·.toList.head?) heq
  simp [alwaysRelevant] at hhead

/-- Two expressions of the same tokens have the same text, except that an expression which is always
relevant must be written `true()`, without a blank in it. Otherwise all steps are the same but for
the expression itself. -/
theorem text_phrase_eq_iff {expression other : String} (h : tokenize expression = tokenize other)
    (items : Forest) (languages : List Language) (options : Options) :
    ((phrase items languages options expression).text =
        (phrase items languages options other).text ↔
      languages = [] ∨ (IsTrue expression ↔ IsTrue other)) ∧
      ((IsTrue expression ↔ IsTrue other) →
        (phrase items languages options expression).steps.tail =
          (phrase items languages options other).steps.tail) := by
  refine ⟨?_, tail_steps_congr h items languages options⟩
  rw [text_phrase, text_phrase]
  constructor
  · intro heq
    by_contra hnot
    obtain ⟨hlanguages, htrue⟩ := not_or.1 hnot
    obtain ⟨language, hm⟩ := List.exists_mem_of_ne_nil _ hlanguages
    have hsame : finalText items options expression language =
        finalText items options other language := by
      have hlanguage := congrArg (·.text? language) heq
      simp only [Localized.text?_ofTexts _ hm] at hlanguage
      exact Option.some.inj hlanguage
    by_cases hexpression : IsTrue expression
    · refine finalText_ne_of_isTrue h hexpression (fun hother => htrue ?_) items options language
        hsame
      exact iff_of_true hexpression hother
    · refine finalText_ne_of_isTrue h.symm (by_contra fun hother => htrue ?_) hexpression items
        options language hsame.symm
      exact iff_of_false hexpression hother
  · rintro (rfl | htrue)
    · rfl
    · rw [finalText_congr h items options htrue]

/-- A reference and a comparison, with blanks and without. -/
theorem text_phrase_eq_looseText :
    tokenize "$\x7bage\x7d>=18 and(later)" = tokenize " $\x7b age \x7d\t>= 18 AND ( later )" ∧
      (phrase .nil [.ofLabel "English"] {} "$\x7bage\x7d>=18 and(later)").text =
        (phrase .nil [.ofLabel "English"] {} " $\x7b age \x7d\t>= 18 AND ( later )").text := by
  have htokens : tokenize "$\x7bage\x7d>=18 and(later)" =
      tokenize " $\x7b age \x7d\t>= 18 AND ( later )" := by
    decide +kernel
  have hfalse : ¬ IsTrue "$\x7bage\x7d>=18 and(later)" := by decide
  have hother : ¬ IsTrue " $\x7b age \x7d\t>= 18 AND ( later )" := by decide
  exact ⟨htokens, (text_phrase_eq_iff htokens .nil _ {}).1.2 (.inr (iff_of_false hfalse hother))⟩

/-- A blank in front of the parentheses of `true()` changes the text. -/
theorem text_phrase_spacedTrue :
    ¬ ∀ expression other : String, tokenize expression = tokenize other →
      ∀ (items : Forest) (languages : List Language) (options : Options),
        (phrase items languages options expression).text =
          (phrase items languages options other).text := by
  intro h
  have htokens : tokenize "true()" = tokenize "true ()" := by decide +kernel
  have htext := congrArg (·.text? (.ofLabel "English"))
    (h "true()" "true ()" htokens .nil [.ofLabel "English"] {})
  simp only [text_phrase, Localized.text?_ofTexts _ (List.mem_singleton.2 rfl)] at htext
  exact finalText_ne_of_isTrue htokens (by decide) (by decide) .nil {} (.ofLabel "English")
    (Option.some.inj htext)

end Questionnaire.Relevance
