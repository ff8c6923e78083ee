import Questionnaire.Proofs.Relevance.Decomposition
import Questionnaire.Proofs.Text.Tidy

/-!
# Tokens with blanks between them

A token may be written in several ways: a literal in either quote, a connective in any letter case,
a reference with blanks around its name. Whichever way is chosen, a blank behind it ends its lexeme,
so that tokens with blanks between them are read back as they were written.

Main definitions:

* `Token.Writable`: the tokens that expressions are written with.
* `Token.WrittenAs`: the ways of writing a token.
* `Spaced`: tokens written one after the other with blanks between them.

Results:

* `Token.WrittenAs.spelled`: every way of writing a token is a lexeme of it.
* `Token.Writable.endsBefore_blank`: a blank ends every lexeme.
* `tokenize_spaced`: tokens with blanks between them are the tokens of the expression.
-/

namespace Questionnaire.Relevance

/-! ## Ways of writing a token -/

/-- An expression can be written with the token. The idioms only come about by reduction; a quote
would open a literal, and the words `and` and `or` are connectives. -/
def Token.Writable : Token → Prop
  | .reference name => Text.trim name = name ∧ '\x7d' ∉ name.toList
  | .number text =>
    (∃ c ∈ text.toList.head?, Text.isDigit c = true) ∧ ∀ c ∈ text.toList, isNumberPart c = true
  | .word text =>
    (∃ c ∈ text.toList.head?, isWordStart c = true) ∧ (∀ c ∈ text.toList, isWordPart c = true) ∧
      Text.smallLetters text.toList ∉ ["and".toList, "or".toList]
  | .symbol char => IsSymbol char ∧ isQuote char = false
  | .literal _ | .comparison _ | .connective _ | .openParen | .closeParen | .comma => True
  | .selectedMoreThan _ | .lengthEquals _ | .notAnswered => False

/-- The word of a connective in small letters. -/
def Connective.word : Connective → List Char
  | .and => "and".toList
  | .or => "or".toList

/-- The token is written in one way only. -/
def Token.hasOneForm : Token → Bool
  | .reference _ | .literal _ | .connective _ => false
  | _ => true

/-- The text is one of the ways of writing the token. -/
inductive Token.WrittenAs : Token → List Char → Prop where
  | reference {name : String} {before after : List Char}
    (hbefore : ∀ c ∈ before, Text.isBlank c = true) (hafter : ∀ c ∈ after, Text.isBlank c = true) :
    WrittenAs (.reference name) ('$' :: '\x7b' :: (before ++ name.toList ++ after ++ ['\x7d']))
  | literal {text : String} {quote : Char} (hquote : isQuote quote = true)
    (h : quote ∉ text.toList) : WrittenAs (.literal text) (quote :: (text.toList ++ [quote]))
  | connective {connective : Connective} {word : List Char}
    (h : Text.smallLetters word = connective.word) : WrittenAs (.connective connective) word
  | display {token : Token} (h : token.hasOneForm = true) : WrittenAs token token.display.toList

theorem exists_cons_of_head? {p : Char → Bool} {text : String}
    (h : ∃ c ∈ text.toList.head?, p c = true) :
    ∃ c cs, p c = true ∧ text.toList = c :: cs ∧ text = String.ofList (c :: cs) := by
  obtain ⟨c, hc, hp⟩ := h
  obtain ⟨cs, hcs⟩ := List.head?_eq_some_iff.1 hc
  exact ⟨c, cs, hp, hcs, by rw [← hcs, String.ofList_toList]⟩

/-- Every way of writing a token is a lexeme of it. -/
theorem Token.WrittenAs.spelled {token : Token} {lexeme : List Char}
    (hwritten : token.WrittenAs lexeme) (htoken : token.Writable) : token.Spelled lexeme := by
  cases hwritten with
  | @reference name before after hbefore hafter =>
    obtain ⟨htrim, hbrace⟩ := htoken
    -- the blanks around the name hold no brace, so the reference is closed behind them
    have hblank {gap : List Char} (hgap : ∀ c ∈ gap, Text.isBlank c = true) : '\x7d' ∉ gap :=
      fun hm => absurd (hgap _ hm) (by decide)
    have hpadded : '\x7d' ∉ before ++ name.toList ++ after := by
      simp [hblank hbefore, hbrace, hblank hafter]
    have hname : String.ofList (Text.trimList (before ++ name.toList ++ after)) = name := by
      rw [Text.trimList_surrounded hbefore _ hafter]
      exact htrim
    have hspelled := Spelled.reference hpadded
    rwa [hname] at hspelled
  | @literal text quote hquote h =>
    have hspelled := Spelled.literal hquote h
    rwa [String.ofList_toList] at hspelled
  | @connective connective word h =>
    cases connective with
    | and => exact .and h
    | or => exact .or h
  | display hform =>
    cases token with
    | reference | literal | connective => cases hform
    | selectedMoreThan | lengthEquals | notAnswered => exact htoken.elim
    | number text =>
      obtain ⟨c, cs, hdigit, hcs, rfl⟩ := exists_cons_of_head? htoken.1
      have hparts := htoken.2
      rw [hcs] at hparts
      show Spelled _ (String.ofList (c :: cs)).toList
      rw [hcs]
      exact .number hdigit (List.forall_mem_cons.1 hparts).2
    | word text =>
      obtain ⟨c, cs, hstart, hcs, rfl⟩ := exists_cons_of_head? htoken.1
      obtain ⟨-, hparts, hconnective⟩ := htoken
      rw [hcs] at hparts hconnective
      simp only [List.mem_cons, List.not_mem_nil, or_false, not_or] at hconnective
      show Spelled _ (String.ofList (c :: cs)).toList
      rw [hcs]
      exact .word hstart (List.forall_mem_cons.1 hparts).2 hconnective.1 hconnective.2
    | comparison operator => exact .comparison operator
    | openParen => exact .openParen
    | closeParen => exact .closeParen
    | comma => exact .comma
    | symbol char =>
      show Spelled _ (String.ofList [char]).toList
      rw [String.toList_ofList]
      exact .symbol htoken.1

/-! ## Blanks behind a lexeme -/

theorem isNumberPart_of_isBlank {c : Char} (h : Text.isBlank c = true) :
    isNumberPart c = false := by
  have hapart : Text.blankTable.apart Text.digitTable = true := by decide
  have hdigit : Text.isDigit c = false := by
    rw [Text.isDigit_eq_contains]
    exact Text.CharTable.contains_eq_false_of_apart hapart h
  have hpoint : c ≠ '.' := by
    rintro rfl
    exact absurd h (by decide)
  simp [isNumberPart, hdigit, hpoint]

theorem isWordPart_of_isBlank {c : Char} (h : Text.isBlank c = true) : isWordPart c = false := by
  have hletters : Text.blankTable.apart Text.letterTable = true := by decide +kernel
  have hnumerals : Text.blankTable.apart Text.numeralTable = true := by decide +kernel
  have hletter : Text.isLetter c = false := Text.CharTable.contains_eq_false_of_apart hletters h
  have hnumeral : Text.isNumeral c = false := Text.CharTable.contains_eq_false_of_apart hnumerals h
  have hne (d : Char) (hd : Text.isBlank d = false) : c ≠ d := by
    rintro rfl
    rw [hd] at h
    cases h
  simp [isWordPart, Text.isAlphanumeric, hletter, hnumeral, hne '_' (by decide),
    hne '-' (by decide), hne '.' (by decide), hne ':' (by decide)]

/-- No lexeme goes on with a blank. -/
theorem Token.Writable.endsBefore_blank {token : Token} (h : token.Writable) {rest : List Char}
    (hrest : ∀ c ∈ rest.head?, Text.isBlank c = true) : token.EndsBefore rest := by
  have hne {c : Char} (hc : Text.isBlank c = false) : rest.head? ≠ some c := by
    intro hhead
    rw [hrest c hhead] at hc
    cases hc
  cases token with
  | number text => exact fun c hc => isNumberPart_of_isBlank (hrest c hc)
  | word text => exact fun c hc => isWordPart_of_isBlank (hrest c hc)
  | connective connective => exact fun c hc => isWordPart_of_isBlank (hrest c hc)
  | comparison operator => exact fun _ => hne (by decide)
  | symbol char =>
    refine ⟨fun _ => hne (by decide), fun hquote => ?_, ?_⟩
    · rw [h.2] at hquote
      cases hquote
    · rintro - name rfl
      exact absurd rfl (hne (c := '\x7b') (by decide))
  | _ => trivial

/-! ## Spaced tokens -/

/-- The text is made up of ways of writing the tokens, with blanks between any two. -/
inductive Spaced : List Token → List Char → Prop where
  | nil : Spaced [] []
  | single {token : Token} {lexeme : List Char} (h : token.WrittenAs lexeme) :
    Spaced [token] lexeme
  | cons {token next : Token} {tokens : List Token} {lexeme gap rest : List Char}
    (h : token.WrittenAs lexeme) (hne : gap ≠ []) (hgap : ∀ c ∈ gap, Text.isBlank c = true)
    (hrest : Spaced (next :: tokens) rest) :
    Spaced (token :: next :: tokens) (lexeme ++ gap ++ rest)

theorem tokenizeList_written {token : Token} {lexeme rest : List Char} (htoken : token.Writable)
    (hwritten : token.WrittenAs lexeme) (hrest : ∀ c ∈ rest.head?, Text.isBlank c = true) :
    tokenizeList (lexeme ++ rest) = token :: tokenizeList rest :=
  tokenizeList_spelled (hwritten.spelled htoken) (htoken.endsBefore_blank hrest)

theorem tokenizeList_spaced {tokens : List Token} {text after : List Char}
    (htokens : ∀ token ∈ tokens, token.Writable) (htext : Spaced tokens text)
    (hafter : ∀ c ∈ after, Text.isBlank c = true) : tokenizeList (text ++ after) = tokens := by
  have hnil : tokenizeList after = [] := by
    have hblanks := tokenizeList_blanks hafter []
    rwa [List.append_nil, tokenizeList_nil] at hblanks
  induction htext with
  | nil => exact hnil
  | single hwritten =>
    rw [tokenizeList_written (htokens _ List.mem_cons_self) hwritten
      fun c hc => hafter c (List.mem_of_head? hc), hnil]
  | @cons token next tokens lexeme gap rest hwritten hne hgap _ ih =>
    obtain ⟨htoken, hothers⟩ := List.forall_mem_cons.1 htokens
    have hhead : ∀ c ∈ (gap ++ (rest ++ after)).head?, Text.isBlank c = true := by
      obtain ⟨d, ds, rfl⟩ := List.exists_cons_of_ne_nil hne
      rintro c ⟨⟩
      exact hgap d List.mem_cons_self
    rw [List.append_assoc, List.append_assoc, tokenizeList_written htoken hwritten hhead,
      tokenizeList_blanks hgap, ih hothers]

/-- Tokens that are written in any of their ways, with blanks between them and perhaps around them,
are the tokens of the expression. -/
theorem tokenize_spaced {tokens : List Token} {before text after : List Char}
    (htokens : ∀ token ∈ tokens, token.Writable) (htext : Spaced tokens text)
    (hbefore : ∀ c ∈ before, Text.isBlank c = true)
    (hafter : ∀ c ∈ after, Text.isBlank c = true) :
    tokenize (String.ofList (before ++ text ++ after)) = tokens := by
  rw [tokenize, String.toList_ofList, List.append_assoc, tokenizeList_blanks hbefore]
  exact tokenizeList_spaced htokens htext hafter

/-! ## Symbols in front of other tokens -/

/-- Signs that would open a reference or go on as an operator if no blank stood behind them, and a
literal with a quote in it. -/
def looseTokens : List Token :=
  [.symbol '$', .symbol '\x7b', .reference "age", .symbol '!', .comparison .equal,
    .literal "don't", .connective .and, .word "x-1"]

def looseText : List Char :=
  "$".toList ++ " ".toList ++ ("\x7b".toList ++ "\t".toList ++ ("$\x7b age\x7d".toList ++ " ".toList
    ++ ("!".toList ++ " ".toList ++ ("=".toList ++ "\n ".toList ++ ("\x22don't\x22".toList
      ++ " ".toList ++ ("aNd".toList ++ " ".toList ++ "x-1".toList))))))

theorem tokenize_looseText :
    tokenize (String.ofList (" ".toList ++ looseText ++ "\n".toList)) = looseTokens := by
  have htokens : ∀ token ∈ looseTokens, token.Writable := by
    have hsymbol (c : Char) (hc : c ∈ ['$', '\x7b', '!']) : (Token.symbol c).Writable := by
      simp only [List.mem_cons, List.not_mem_nil, or_false] at hc
      obtain rfl | rfl | rfl := hc <;>
        exact ⟨⟨by decide, by decide, by decide +kernel, by decide⟩, by decide⟩
    simp only [looseTokens, List.forall_mem_cons]
    exact ⟨hsymbol _ (by decide), hsymbol _ (by decide), ⟨by decide, by decide⟩,
      hsymbol _ (by decide), trivial, trivial, trivial,
      ⟨⟨_, rfl, by decide⟩, List.all_eq_true.1 (by decide +kernel), by decide⟩,
      List.forall_mem_nil _⟩
  have hblank {gap : List Char} (h : gap.all Text.isBlank = true) :
      ∀ c ∈ gap, Text.isBlank c = true := List.all_eq_true.1 h
  have htext : Spaced looseTokens looseText :=
    .cons (.display rfl) (by decide) (hblank (by decide)) <|
    .cons (.display rfl) (by decide) (hblank (by decide)) <|
    .cons (@Token.WrittenAs.reference "age" " ".toList [] (hblank (by decide)) (hblank rfl))
      (by decide) (hblank (by decide)) <|
    .cons (.display rfl) (by decide) (hblank (by decide)) <|
    .cons (.display rfl) (by decide) (hblank (by decide)) <|
    .cons (@Token.WrittenAs.literal "don't" '\x22' (by decide) (by decide))
      (by decide) (hblank (by decide)) <|
    .cons (.connective (by decide)) (by decide) (hblank (by decide)) <|
    .single (.display rfl)
  exact tokenize_spaced htokens htext (hblank (by decide)) (hblank (by decide))

end Questionnaire.Relevance
