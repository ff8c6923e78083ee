import Questionnaire.Relevance.Token
import Questionnaire.Text.Ascii

/-!
# Reducing tokens

Some ways of writing an expression have a shorter equivalent: `selected(${q}, 'a')` is
`${q} = 'a'`. A rule looks at six tokens in a row and may replace them. Each rule is applied once
along all tokens, from the left, and goes on behind what it replaced.

Main definitions:

* `Rule`, `Rule.apply`.
* `sugarRules`, `answeredRule`: the rules in the order of their application.
* `reduced`: the tokens after each of the rules.
-/

namespace Questionnaire.Relevance

/-- The replacement of six tokens in a row, if the rule has one. -/
abbrev Rule := Token → Token → Token → Token → Token → Token → Option (List Token)

/-- Replaces every six tokens that match, from left to right. -/
def Rule.apply (rule : Rule) : List Token → List Token
  | [] => []
  | a :: b :: c :: d :: e :: f :: rest =>
    match rule a b c d e f with
    | some replacement => replacement ++ Rule.apply rule rest
    | none => a :: Rule.apply rule (b :: c :: d :: e :: f :: rest)
  | a :: rest => a :: Rule.apply rule rest

/-- A pass keeps what is true of all tokens if every replacement keeps it. -/
theorem Rule.forall_mem_apply {P : Token → Prop} {rule : Rule}
    (h : ∀ a b c d e f replacement, rule a b c d e f = some replacement →
      (∀ token ∈ [a, b, c, d, e, f], P token) → ∀ token ∈ replacement, P token)
    {tokens : List Token} (htokens : ∀ token ∈ tokens, P token) :
    ∀ token ∈ rule.apply tokens, P token := by
  fun_induction Rule.apply rule tokens with
  | case1 => exact htokens
  | case2 a b c d e f rest replacement hrule ih =>
    have hsplit : ∀ token ∈ [a, b, c, d, e, f] ++ rest, P token := htokens
    rw [List.forall_mem_append] at hsplit
    exact List.forall_mem_append.2 ⟨h a b c d e f _ hrule hsplit.1, ih hsplit.2⟩
  | case3 a b c d e f rest hrule ih =>
    obtain ⟨ha, hrest⟩ := List.forall_mem_cons.1 htokens
    exact List.forall_mem_cons.2 ⟨ha, ih hrest⟩
  | case4 a rest hshort ih =>
    obtain ⟨ha, hrest⟩ := List.forall_mem_cons.1 htokens
    exact List.forall_mem_cons.2 ⟨ha, ih hrest⟩

/-! ## The rules -/

/-- `selected(${q}, 'a')` is `${q} = 'a'`. -/
def selectedRule : Rule
  | .word w, .openParen, .reference q, .comma, .literal a, .closeParen =>
    if Text.sameIgnoringCase w "selected" then some [.reference q, .comparison .equal, .literal a]
    else none
  | _, _, _, _, _, _ => none

/-- `not(${q} = 'a')` is `${q} != 'a'`. -/
def notEqualRule : Rule
  | .word w, .openParen, .reference q, .comparison .equal, .literal a, .closeParen =>
    if Text.sameIgnoringCase w "not" then some [.reference q, .comparison .notEqual, .literal a]
    else none
  | _, _, _, _, _, _ => none

/-- `count-selected(${q}) > n` tells that more than `n` answers were selected. -/
def countSelectedRule : Rule
  | .word w, .openParen, .reference q, .closeParen, .comparison .greater, .number n =>
    if Text.sameIgnoringCase w "count-selected" then some [.reference q, .selectedMoreThan n]
    else none
  | _, _, _, _, _, _ => none

/-- `string-length(${q}) = n` tells that the answer has `n` characters. -/
def stringLengthRule : Rule
  | .word w, .openParen, .reference q, .closeParen, .comparison .equal, .number n =>
    if Text.sameIgnoringCase w "string-length" then some [.reference q, .lengthEquals n]
    else none
  | _, _, _, _, _, _ => none

/-- `${q} = 'NaN' or string-length(${q}) = 0` tells that there is no answer. -/
def answeredRule : Rule
  | .reference a, .comparison .equal, .literal nan, .connective .or, .reference b,
      .lengthEquals zero =>
    if a = b ∧ nan = "NaN" ∧ zero = "0" then some [.reference a, .notAnswered] else none
  | _, _, _, _, _, _ => none

/-- The rules that replace the functions, in order. -/
def sugarRules : List Rule := [selectedRule, notEqualRule, countSelectedRule, stringLengthRule]

/-! ## Step by step -/

/-- The tokens, and the tokens after each of the rules. -/
def reductions : List Rule → List Token → List (List Token)
  | [], tokens => [tokens]
  | rule :: rules, tokens => tokens :: reductions rules (Rule.apply rule tokens)

/-- The tokens after all rules. -/
def reduceAll (rules : List Rule) (tokens : List Token) : List Token :=
  rules.foldl (fun tokens rule => Rule.apply rule tokens) tokens

/-- The tokens after all rules of the program. -/
def reduced (tokens : List Token) : List Token :=
  reduceAll (sugarRules ++ [answeredRule]) tokens

theorem reductions_getLast? (rules : List Rule) (tokens : List Token) :
    (reductions rules tokens).getLast? = some (reduceAll rules tokens) := by
  induction rules generalizing tokens with
  | nil => rfl
  | cons rule rules ih =>
    rw [reductions, reduceAll, List.foldl_cons]
    have := ih (Rule.apply rule tokens)
    rw [reduceAll] at this
    rw [← this]
    cases h : reductions rules (Rule.apply rule tokens) with
    | nil => cases rules <;> simp [reductions] at h
    | cons first rest => rw [List.getLast?_cons_cons]

end Questionnaire.Relevance
