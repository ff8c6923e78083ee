import Questionnaire.Relevance.Token
import Questionnaire.Text.Ascii
import Questionnaire.Text.Blank
import Questionnaire.Text.Digits
import Questionnaire.Text.Letter

/-!
# Splitting an expression into tokens

Blanks only separate tokens. Of the tokens that may start at a character the longest is taken;
a reference or a literal that is never closed falls apart into its characters.

Results:

* `firstToken_length_le`: a token takes at least one character, so the rest is shorter.
* `tokenizeList_blank`: a leading blank is skipped.
-/

namespace Questionnaire.Relevance

/-! ## Parts of tokens -/

/-- The text in front of the first `stop` and the text behind it. -/
def splitAt? (stop : Char) : List Char → Option (List Char × List Char)
  | [] => none
  | c :: cs =>
    if c = stop then some ([], cs)
    else (splitAt? stop cs).map fun parts => (c :: parts.1, parts.2)

theorem splitAt?_eq_some_iff {stop : Char} {cs before after : List Char} :
    splitAt? stop cs = some (before, after) ↔ cs = before ++ stop :: after ∧ stop ∉ before := by
  induction cs generalizing before with
  | nil => simp [splitAt?]
  | cons c cs ih =>
    by_cases h : c = stop
    · subst h
      cases before with
      | nil => simp [splitAt?]
      | cons b before =>
        simp only [splitAt?, if_true, Option.some.injEq, Prod.mk.injEq, List.cons_append,
          List.cons.injEq, List.mem_cons, not_or]
        constructor
        · rintro ⟨h, _⟩; cases h
        · rintro ⟨⟨rfl, _⟩, h, _⟩; exact absurd rfl h
    · simp only [splitAt?, h, if_false, Option.map_eq_some_iff, Prod.exists, Prod.mk.injEq]
      constructor
      · rintro ⟨b, a, hs, rfl, rfl⟩
        obtain ⟨rfl, hn⟩ := ih.1 hs
        exact ⟨rfl, by simp [hn, Ne.symm h]⟩
      · rintro ⟨he, hn⟩
        cases before with
        | nil => simp only [List.nil_append, List.cons.injEq] at he; exact absurd he.1 h
        | cons b before =>
          simp only [List.cons_append, List.cons.injEq] at he
          simp only [List.mem_cons, not_or] at hn
          exact ⟨before, after, ih.2 ⟨he.2, hn.2⟩, by rw [he.1], rfl⟩

/-- A quote opens a literal and closes it. -/
def isQuote (c : Char) : Bool := c = '\x27' || c = '\x22'

/-- What a number goes on with. -/
def isNumberPart (c : Char) : Bool := Text.isDigit c || c = '.'

/-- What a word starts with. -/
def isWordStart (c : Char) : Bool := Text.isLetter c || c = '_'

/-- What a word goes on with. -/
def isWordPart (c : Char) : Bool :=
  Text.isAlphanumeric c || c = '_' || c = '-' || c = '.' || c = ':'

/-! ## Single tokens -/

/-- A reference or a literal at the start of a text, if it is closed. -/
def delimited? : List Char → Option (Token × List Char)
  | '$' :: '\x7b' :: cs =>
    (splitAt? '\x7d' cs).map fun parts =>
      (.reference (String.ofList (Text.trimList parts.1)), parts.2)
  | c :: cs =>
    if isQuote c then
      (splitAt? c cs).map fun parts => (.literal (String.ofList parts.1), parts.2)
    else none
  | [] => none

/-- A comparison at the start of a text, the longer operators first. -/
def comparison? : List Char → Option (Comparison × List Char)
  | '>' :: '=' :: cs => some (.atLeast, cs)
  | '>' :: cs => some (.greater, cs)
  | '<' :: '=' :: cs => some (.atMost, cs)
  | '<' :: cs => some (.less, cs)
  | '!' :: '=' :: cs => some (.notEqual, cs)
  | '=' :: cs => some (.equal, cs)
  | _ => none

/-- The words `and` and `or` are connectives in any letter case. -/
def wordToken (word : List Char) : Token :=
  if Text.smallLetters word = "and".toList then .connective .and
  else if Text.smallLetters word = "or".toList then .connective .or
  else .word (String.ofList word)

/-- The token of a single character. -/
def charToken (c : Char) : Token :=
  if c = '(' then .openParen
  else if c = ')' then .closeParen
  else if c = ',' then .comma
  else .symbol c

/-- The token at the start of a text, and what follows it. The text starts with `c`, which is not
blank, and goes on with `cs`. -/
def firstToken (c : Char) (cs : List Char) : Token × List Char :=
  match delimited? (c :: cs) with
  | some found => found
  | none =>
    match comparison? (c :: cs) with
    | some (operator, rest) => (.comparison operator, rest)
    | none =>
      if Text.isDigit c then
        (.number (String.ofList (c :: cs.takeWhile isNumberPart)), cs.dropWhile isNumberPart)
      else if isWordStart c then
        (wordToken (c :: cs.takeWhile isWordPart), cs.dropWhile isWordPart)
      else (charToken c, cs)

theorem delimited?_length {c : Char} {cs rest : List Char} {token : Token}
    (h : delimited? (c :: cs) = some (token, rest)) : rest.length ≤ cs.length := by
  unfold delimited? at h
  split at h
  · rename_i cs' heq
    simp only [List.cons.injEq] at heq
    obtain ⟨parts, hs, he⟩ := Option.map_eq_some_iff.1 h
    have := (@splitAt?_eq_some_iff _ _ parts.1 parts.2).1 hs
    simp only [Prod.mk.injEq] at he
    rw [heq.2, ← he.2]
    have := congrArg List.length this.1
    simp at this ⊢; omega
  · rename_i c' cs' _ heq
    simp only [List.cons.injEq] at heq
    split at h
    · obtain ⟨parts, hs, he⟩ := Option.map_eq_some_iff.1 h
      have := (@splitAt?_eq_some_iff _ _ parts.1 parts.2).1 hs
      simp only [Prod.mk.injEq] at he
      rw [heq.2, ← he.2]
      have := congrArg List.length this.1
      simp at this ⊢; omega
    · cases h
  · cases h

theorem comparison?_length {c : Char} {cs rest : List Char} {operator : Comparison}
    (h : comparison? (c :: cs) = some (operator, rest)) : rest.length ≤ cs.length := by
  unfold comparison? at h
  split at h <;> simp_all

theorem dropWhile_length_le (p : Char → Bool) (cs : List Char) :
    (cs.dropWhile p).length ≤ cs.length := (List.dropWhile_suffix p).length_le

theorem firstToken_length_le (c : Char) (cs : List Char) :
    (firstToken c cs).2.length ≤ cs.length := by
  unfold firstToken
  split
  · rename_i h; exact delimited?_length h
  · split
    · rename_i h; exact comparison?_length h
    · split
      · exact dropWhile_length_le _ cs
      · split
        · exact dropWhile_length_le _ cs
        · exact Nat.le_refl _

/-! ## All tokens -/

def tokenizeList : List Char → List Token
  | [] => []
  | c :: cs =>
    if Text.isBlank c then tokenizeList cs
    else (firstToken c cs).1 :: tokenizeList (firstToken c cs).2
termination_by cs => cs.length
decreasing_by
  · simp
  · have := firstToken_length_le c cs
    simp only [List.length_cons]; omega

/-- The tokens of an expression. -/
def tokenize (expression : String) : List Token := tokenizeList expression.toList

theorem tokenizeList_nil : tokenizeList [] = [] := by rw [tokenizeList]

theorem tokenizeList_blank {c : Char} (h : Text.isBlank c = true) (cs : List Char) :
    tokenizeList (c :: cs) = tokenizeList cs := by
  rw [tokenizeList, if_pos h]

theorem tokenizeList_cons {c : Char} (h : Text.isBlank c = false) (cs : List Char) :
    tokenizeList (c :: cs) = (firstToken c cs).1 :: tokenizeList (firstToken c cs).2 := by
  rw [tokenizeList, if_neg (by simp [h])]

end Questionnaire.Relevance
