import Questionnaire.Proofs.Relevance.Lexemes
import Questionnaire.Relevance.Reduction
import Questionnaire.Text.Search

/-!
# Plain tokens

Markup begins with `<`. In an expression this character is always part of a comparison, so that no
other token of it holds one unless a quoted text or the name of a question does. The rules bring in
no text of their own, and so the reduced tokens are as plain as the tokens of the expression.

Results:

* `isPlain_of_mem_tokenize`: the tokens of an expression.
* `forall_mem_reduced`: what reducing keeps of all tokens.
* `isPlain_of_mem_reduced`: the reduced tokens.
-/

namespace Questionnaire.Relevance

/-! ## Texts without tags -/

/-- No tag begins in the text. -/
def TagFree (text : String) : Prop := '<' ∉ text.toList

instance (text : String) : Decidable (TagFree text) := inferInstanceAs (Decidable (¬ _))

theorem tagFree_append {text other : String} :
    TagFree (text ++ other) ↔ TagFree text ∧ TagFree other := by
  rw [TagFree, String.toList_append, List.mem_append, not_or]
  rfl

theorem tagFree_joinWith {separator : String} (hseparator : TagFree separator)
    {texts : List String} (h : ∀ text ∈ texts, TagFree text) :
    TagFree (Text.joinWith separator texts) := by
  fun_induction Text.joinWith separator texts with
  | case1 => decide
  | case2 text => exact h text List.mem_cons_self
  | case3 text other rest ih =>
    obtain ⟨htext, hrest⟩ := List.forall_mem_cons.1 h
    rw [tagFree_append, tagFree_append]
    exact ⟨⟨htext, hseparator⟩, ih hrest⟩

/-- The text of the token has no `<` in it, and the token shows some text. -/
def Token.IsPlain : Token → Prop
  | .reference text | .literal text => TagFree text
  | .number text | .word text | .selectedMoreThan text | .lengthEquals text =>
    text ≠ "" ∧ TagFree text
  | .symbol char => char ≠ '<'
  | .comparison _ | .connective _ | .openParen | .closeParen | .comma | .notAnswered => True

/-! ## Lexing -/

theorem forall_mem_tokenizeList {P : Token → Prop} (h : ∀ c cs, P (firstToken c cs).1)
    (cs : List Char) : ∀ token ∈ tokenizeList cs, P token := by
  fun_induction tokenizeList cs with
  | case1 => exact fun token hm => absurd hm List.not_mem_nil
  | case2 c cs hblank ih => exact ih
  | case3 c cs hblank ih => exact List.forall_mem_cons.2 ⟨h c cs, ih⟩

theorem eq_of_delimited? {cs rest : List Char} {token : Token}
    (h : delimited? cs = some (token, rest)) :
    ∃ text, token = .reference text ∨ token = .literal text := by
  unfold delimited? at h
  split at h
  · obtain ⟨parts, -, he⟩ := Option.map_eq_some_iff.1 h
    exact ⟨_, .inl (Prod.mk.inj he).1.symm⟩
  · split at h
    · obtain ⟨parts, -, he⟩ := Option.map_eq_some_iff.1 h
      exact ⟨_, .inr (Prod.mk.inj he).1.symm⟩
    · cases h
  · cases h

/-- A text whose characters are all of a class without `<` has none. -/
theorem not_mem_takeWhile {p : Char → Bool} (hp : p '<' = false) (cs : List Char) :
    '<' ∉ cs.takeWhile p := fun hm => by
  have hall := List.all_eq_true.1 (List.all_takeWhile (p := p) (l := cs)) '<' hm
  rw [hp] at hall
  cases hall

theorem isPlain_ofList_cons {c : Char} {cs : List Char} (hc : c ≠ '<') (hcs : '<' ∉ cs) :
    String.ofList (c :: cs) ≠ "" ∧ TagFree (String.ofList (c :: cs)) := by
  rw [TagFree, String.toList_ofList, List.mem_cons, not_or]
  exact ⟨fun h => List.cons_ne_nil _ _ (String.ofList_eq_empty_iff.1 h), Ne.symm hc, hcs⟩

theorem isPlain_wordToken {word : List Char} (hne : word ≠ []) (h : '<' ∉ word) :
    (wordToken word).IsPlain := by
  obtain ⟨c, cs, rfl⟩ := List.exists_cons_of_ne_nil hne
  rw [List.mem_cons, not_or] at h
  unfold wordToken
  split
  · trivial
  · split
    · trivial
    · exact isPlain_ofList_cons (Ne.symm h.1) h.2

theorem isPlain_charToken {c : Char} (h : c ≠ '<') : (charToken c).IsPlain := by
  unfold charToken
  split
  · trivial
  · split
    · trivial
    · split
      · trivial
      · exact h

/-- A comparison is read wherever a text goes on with `<`. -/
theorem comparison?_less_ne_none (cs : List Char) : comparison? ('<' :: cs) ≠ none := by
  unfold comparison?
  split <;> simp_all

/-- A token is plain unless a `<` stands between its quotes or in its name. -/
theorem isPlain_firstToken (c : Char) (cs : List Char)
    (hnamed : ∀ text, (firstToken c cs).1 = .reference text ∨ (firstToken c cs).1 = .literal text →
      TagFree text) : (firstToken c cs).1.IsPlain := by
  unfold firstToken at hnamed ⊢
  split
  · rename_i found hdelimited
    obtain ⟨token, rest⟩ := found
    obtain ⟨text, rfl | rfl⟩ := eq_of_delimited? hdelimited
    · simp only [hdelimited] at hnamed
      exact hnamed text (.inl rfl)
    · simp only [hdelimited] at hnamed
      exact hnamed text (.inr rfl)
  · rename_i hdelimited
    split
    · trivial
    · rename_i hcomparison
      have hc : c ≠ '<' := by
        rintro rfl
        exact comparison?_less_ne_none cs hcomparison
      split
      · rename_i hdigit
        exact isPlain_ofList_cons hc (not_mem_takeWhile (by decide) cs)
      · split
        · refine isPlain_wordToken (List.cons_ne_nil _ _) ?_
          rw [List.mem_cons, not_or]
          exact ⟨Ne.symm hc, not_mem_takeWhile (isWordPart_eq_false (by decide)) cs⟩
        · exact isPlain_charToken hc

/-- The token is a quoted text, or a question with its name. -/
def Token.IsNamed (token : Token) : Prop := ∃ text, token = .reference text ∨ token = .literal text

theorem isNamed_or_isPlain_of_mem_tokenize {expression : String} :
    ∀ token ∈ tokenize expression, token.IsNamed ∨ token.IsPlain := by
  refine forall_mem_tokenizeList (fun c cs => ?_) _
  by_cases hnamed : (firstToken c cs).1.IsNamed
  · exact .inl hnamed
  · exact .inr (isPlain_firstToken c cs fun text h => absurd ⟨text, h⟩ hnamed)

theorem isPlain_of_mem_tokenize {expression : String}
    (hreferences : ∀ name, .reference name ∈ tokenize expression → TagFree name)
    (hliterals : ∀ text, .literal text ∈ tokenize expression → TagFree text) :
    ∀ token ∈ tokenize expression, token.IsPlain := by
  intro token hm
  obtain ⟨text, rfl | rfl⟩ | hplain := isNamed_or_isPlain_of_mem_tokenize token hm
  · exact hreferences text hm
  · exact hliterals text hm
  · exact hplain

/-! ## Reducing -/

section

variable {P : Token → Prop} (hcomparison : ∀ operator, P (.comparison operator))
  (hnotAnswered : P .notAnswered)
  (hcount : ∀ count, P (.number count) → P (.selectedMoreThan count) ∧ P (.lengthEquals count))

include hcomparison hnotAnswered hcount

theorem forall_mem_replacement {rule : Rule} (hmem : rule ∈ sugarRules ++ [answeredRule])
    {a b c d e f : Token} {replacement : List Token} (hrule : rule a b c d e f = some replacement)
    (h : ∀ token ∈ [a, b, c, d, e, f], P token) : ∀ token ∈ replacement, P token := by
  simp only [sugarRules, List.cons_append, List.nil_append, List.mem_cons, List.not_mem_nil,
    or_false] at hmem
  -- every rule takes the texts of its replacement from the tokens that it replaces
  obtain rfl | rfl | rfl | rfl | rfl := hmem
  all_goals
    simp only [selectedRule, notEqualRule, countSelectedRule, stringLengthRule, answeredRule]
      at hrule
    split at hrule
    · split at hrule
      · cases hrule
        simp only [List.forall_mem_cons] at h ⊢
        simp [h, hcomparison, hnotAnswered, hcount]
      · cases hrule
    · cases hrule

/-- Reducing keeps what is true of all tokens, if it is true of comparisons and carries over from
numbers to counts. -/
theorem forall_mem_reduced {tokens : List Token} (h : ∀ token ∈ tokens, P token) :
    ∀ token ∈ reduced tokens, P token := by
  suffices hrules : ∀ rules : List Rule, (∀ rule ∈ rules, rule ∈ sugarRules ++ [answeredRule]) →
      ∀ token ∈ reduceAll rules tokens, P token from hrules _ fun _ hm => hm
  intro rules hrules
  induction rules generalizing tokens with
  | nil => exact h
  | cons rule rules ih =>
    obtain ⟨hrule, hrules⟩ := List.forall_mem_cons.1 hrules
    have happly : ∀ token ∈ rule.apply tokens, P token := Rule.forall_mem_apply
      (fun _ _ _ _ _ _ _ => forall_mem_replacement hcomparison hnotAnswered hcount hrule) h
    exact ih happly hrules

end

theorem isPlain_of_mem_reduced {tokens : List Token} (h : ∀ token ∈ tokens, token.IsPlain) :
    ∀ token ∈ reduced tokens, token.IsPlain :=
  forall_mem_reduced (fun _ => trivial) trivial (fun _ hcount => ⟨hcount, hcount⟩) h

theorem isNamed_or_isPlain_of_mem_reduced {tokens : List Token}
    (h : ∀ token ∈ tokens, token.IsNamed ∨ token.IsPlain) :
    ∀ token ∈ reduced tokens, token.IsNamed ∨ token.IsPlain := by
  refine forall_mem_reduced (fun _ => .inr trivial) (.inr trivial) (fun count hcount => ?_) h
  obtain ⟨text, hnumber | hnumber⟩ | hplain := hcount
  · cases hnumber
  · cases hnumber
  · exact ⟨.inr hplain, .inr hplain⟩

end Questionnaire.Relevance
