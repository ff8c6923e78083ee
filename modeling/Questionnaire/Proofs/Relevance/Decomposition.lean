import Questionnaire.Proofs.Relevance.PlainTokens

/-!
# Texts made up of lexemes

Every text is made up of lexemes with blanks between them, so that no character but a blank is lost.
A lexeme is as long as it can be: what follows it could not go on with it. In this way the text
determines its lexemes, and the tokens of an expression are those that the lexemes spell.

Main definitions:

* `Token.Spelled`: the lexemes of a token.
* `Token.EndsBefore`: what may follow the lexeme of a token.
* `SplitsInto`: a text is made up of the lexemes of some tokens.

Results:

* `firstToken_spelled`, `tokenizeList_spelled`: the token at the start of a text is the one whose
  lexeme stands there.
* `tokenize_eq_iff`: the tokens of an expression are those whose lexemes make it up.
-/

namespace Questionnaire.Relevance

/-! ## Lexemes -/

/-- The character is a token of its own, if no reference, literal or comparison begins with it. -/
structure IsSymbol (c : Char) : Prop where
  blank : Text.isBlank c = false
  digit : Text.isDigit c = false
  wordStart : isWordStart c = false
  other : c ∉ ['>', '<', '=', '(', ')', ',']

/-- The lexeme is a way to write the token in an expression. -/
inductive Token.Spelled : Token → List Char → Prop where
  | reference {name : List Char} (h : '\x7d' ∉ name) :
    Spelled (.reference (String.ofList (Text.trimList name))) ('$' :: '\x7b' :: (name ++ ['\x7d']))
  | literal {quote : Char} {text : List Char} (hquote : isQuote quote = true) (h : quote ∉ text) :
    Spelled (.literal (String.ofList text)) (quote :: (text ++ [quote]))
  | comparison (operator : Comparison) :
    Spelled (.comparison operator) operator.operator.toList
  | number {c : Char} {cs : List Char} (hc : Text.isDigit c = true)
    (hcs : ∀ d ∈ cs, isNumberPart d = true) : Spelled (.number (String.ofList (c :: cs))) (c :: cs)
  | and {word : List Char} (h : Text.smallLetters word = "and".toList) :
    Spelled (.connective .and) word
  | or {word : List Char} (h : Text.smallLetters word = "or".toList) :
    Spelled (.connective .or) word
  | word {c : Char} {cs : List Char} (hc : isWordStart c = true)
    (hcs : ∀ d ∈ cs, isWordPart d = true) (hand : Text.smallLetters (c :: cs) ≠ "and".toList)
    (hor : Text.smallLetters (c :: cs) ≠ "or".toList) :
    Spelled (.word (String.ofList (c :: cs))) (c :: cs)
  | openParen : Spelled .openParen ['(']
  | closeParen : Spelled .closeParen [')']
  | comma : Spelled .comma [',']
  | symbol {c : Char} (h : IsSymbol c) : Spelled (.symbol c) [c]

/-- The lexeme of the token is not the beginning of a longer one. Numbers and words end where no
part of them follows; `>`, `<` and `!` are not followed by the `=` of a longer operator; a quote or
a dollar sign is a symbol only where no literal or reference is closed. -/
def Token.EndsBefore : Token → List Char → Prop
  | .number _, rest => ∀ c ∈ rest.head?, isNumberPart c = false
  | .word _, rest | .connective _, rest => ∀ c ∈ rest.head?, isWordPart c = false
  | .comparison operator, rest => operator = .greater ∨ operator = .less → rest.head? ≠ some '='
  | .symbol char, rest =>
    (char = '!' → rest.head? ≠ some '=') ∧ (isQuote char = true → char ∉ rest) ∧
      (char = '$' → ∀ name, rest = '\x7b' :: name → '\x7d' ∉ name)
  | _, _ => True

/-- The text is made up of the lexemes of the tokens, with blanks in front of each and at the end.
-/
inductive SplitsInto : List Char → List Token → List (List Char) → Prop where
  | blank {gap : List Char} (hgap : ∀ c ∈ gap, Text.isBlank c = true) : SplitsInto gap [] []
  | token {gap lexeme rest : List Char} {token : Token} {tokens : List Token}
    {lexemes : List (List Char)} (hgap : ∀ c ∈ gap, Text.isBlank c = true)
    (hspelled : token.Spelled lexeme) (hends : token.EndsBefore rest)
    (hrest : SplitsInto rest tokens lexemes) :
    SplitsInto (gap ++ lexeme ++ rest) (token :: tokens) (lexeme :: lexemes)

/-! ## The first lexeme of a text -/

theorem splitAt?_eq_none_iff {stop : Char} {cs : List Char} :
    splitAt? stop cs = none ↔ stop ∉ cs := by
  induction cs with
  | nil => simp [splitAt?]
  | cons c cs ih =>
    by_cases h : c = stop
    · simp [splitAt?, h]
    · simp [splitAt?, h, Ne.symm h, ih]

/-- Where a run of characters ends, another character follows. -/
theorem not_head?_dropWhile (p : Char → Bool) (cs : List Char) :
    ∀ c ∈ (cs.dropWhile p).head?, p c = false := by
  intro c hc
  have hnot := List.head?_dropWhile_not p cs
  rwa [Option.mem_def.1 hc] at hnot

theorem forall_mem_takeWhile (p : Char → Bool) (cs : List Char) :
    ∀ c ∈ cs.takeWhile p, p c = true := List.all_eq_true.1 List.all_takeWhile

/-- A reference or a literal is read from its lexeme. -/
theorem delimited?_spelled {cs rest : List Char} {token : Token}
    (h : delimited? cs = some (token, rest)) :
    ∃ lexeme, cs = lexeme ++ rest ∧ token.Spelled lexeme ∧ token.EndsBefore rest := by
  unfold delimited? at h
  split at h
  · rename_i cs
    obtain ⟨⟨name, after⟩, hsplit, hread⟩ := Option.map_eq_some_iff.1 h
    obtain ⟨rfl, rfl⟩ := Prod.mk.inj hread
    obtain ⟨rfl, hname⟩ := splitAt?_eq_some_iff.1 hsplit
    exact ⟨_, by simp, .reference hname, trivial⟩
  · rename_i quote cs _
    split at h
    · rename_i hquote
      obtain ⟨⟨text, after⟩, hsplit, hread⟩ := Option.map_eq_some_iff.1 h
      obtain ⟨rfl, rfl⟩ := Prod.mk.inj hread
      obtain ⟨rfl, htext⟩ := splitAt?_eq_some_iff.1 hsplit
      exact ⟨_, by simp, .literal hquote htext, trivial⟩
    · cases h
  · cases h

theorem head?_ne_some_iff {c : Char} {cs : List Char} :
    cs.head? ≠ some c ↔ ∀ rest, cs ≠ c :: rest := by
  cases cs <;> simp

/-- A comparison is read from its operator. -/
theorem comparison?_spelled {cs rest : List Char} {operator : Comparison}
    (h : comparison? cs = some (operator, rest)) :
    cs = operator.operator.toList ++ rest ∧ (Token.comparison operator).EndsBefore rest := by
  unfold comparison? at h
  split at h
  case h_2 hlonger | h_4 hlonger =>
    obtain ⟨rfl, rfl⟩ := Prod.mk.inj (Option.some.inj h)
    exact ⟨rfl, fun _ => head?_ne_some_iff.2 hlonger⟩
  case h_7 => cases h
  all_goals
    obtain ⟨rfl, rfl⟩ := Prod.mk.inj (Option.some.inj h)
    exact ⟨rfl, by rintro (h | h) <;> cases h⟩

theorem wordToken_spelled {c : Char} {cs : List Char} (hc : isWordStart c = true)
    (hcs : ∀ d ∈ cs, isWordPart d = true) : (wordToken (c :: cs)).Spelled (c :: cs) := by
  unfold wordToken
  split
  · rename_i hand
    exact .and hand
  · rename_i hand
    split
    · rename_i hor
      exact .or hor
    · rename_i hor
      exact .word hc hcs hand hor

theorem wordToken_endsBefore (word : List Char) {rest : List Char}
    (h : ∀ c ∈ rest.head?, isWordPart c = false) : (wordToken word).EndsBefore rest := by
  unfold wordToken
  split
  · exact h
  · split <;> exact h

/-- A character where no other token begins is a token of its own. -/
theorem charToken_spelled {c : Char} {cs : List Char} (hblank : Text.isBlank c = false)
    (hdelimited : delimited? (c :: cs) = none) (hcomparison : comparison? (c :: cs) = none)
    (hdigit : Text.isDigit c = false) (hword : isWordStart c = false) :
    (charToken c).Spelled [c] ∧ (charToken c).EndsBefore cs := by
  unfold charToken
  split
  · rename_i hopen
    exact hopen ▸ ⟨.openParen, trivial⟩
  split
  · rename_i hclose
    exact hclose ▸ ⟨.closeParen, trivial⟩
  split
  · rename_i hcomma
    exact hcomma ▸ ⟨.comma, trivial⟩
  rename_i hopen hclose hcomma
  have hnone (d : Char) (hd : ∀ rest, comparison? (d :: rest) ≠ none) : c ≠ d := by
    rintro rfl
    exact hd cs hcomparison
  have hgreater := hnone '>' (fun rest => by unfold comparison?; split <;> simp_all)
  have hless := hnone '<' comparison?_less_ne_none
  have hequal := hnone '=' (fun rest => by simp [comparison?])
  refine ⟨.symbol ⟨hblank, hdigit, hword, by simp [*]⟩, ?_, fun hquote hm => ?_, ?_⟩
  · rintro rfl
    exact head?_ne_some_iff.2 fun rest hrest => by simp [hrest, comparison?] at hcomparison
  · have hdollar : c ≠ '$' := by
      rintro rfl
      exact absurd hquote (by decide)
    rw [delimited?.eq_2 _ _ fun _ heq => absurd heq hdollar, if_pos hquote,
      Option.map_eq_none_iff, splitAt?_eq_none_iff] at hdelimited
    exact hdelimited hm
  · rintro rfl name rfl
    rwa [delimited?, Option.map_eq_none_iff, splitAt?_eq_none_iff] at hdelimited

/-- The first token of a text is spelled at its start, by a lexeme that could not be longer. -/
theorem firstToken_spelled {c : Char} (hblank : Text.isBlank c = false) (cs : List Char) :
    ∃ lexeme, c :: cs = lexeme ++ (firstToken c cs).2 ∧ (firstToken c cs).1.Spelled lexeme ∧
      (firstToken c cs).1.EndsBefore (firstToken c cs).2 := by
  have hrun (p : Char → Bool) : c :: cs = c :: cs.takeWhile p ++ cs.dropWhile p := by
    rw [List.cons_append, List.takeWhile_append_dropWhile]
  unfold firstToken
  split
  · rename_i found hdelimited
    exact delimited?_spelled hdelimited
  rename_i hdelimited
  split
  · rename_i operator rest hcomparison
    obtain ⟨heq, hends⟩ := comparison?_spelled hcomparison
    exact ⟨_, heq, .comparison operator, hends⟩
  rename_i hcomparison
  split
  · rename_i hdigit
    exact ⟨_, hrun _, .number hdigit (forall_mem_takeWhile _ _), not_head?_dropWhile _ _⟩
  rename_i hdigit
  split
  · rename_i hword
    exact ⟨_, hrun _, wordToken_spelled hword (forall_mem_takeWhile _ _),
      wordToken_endsBefore _ (not_head?_dropWhile _ _)⟩
  · rename_i hword
    exact ⟨[c], rfl, charToken_spelled hblank hdelimited hcomparison (Bool.eq_false_iff.2 hdigit)
      (Bool.eq_false_iff.2 hword)⟩

/-! ## Reading a lexeme -/

/-- Letters that become small letters were letters before. -/
theorem isLetter_of_toLower {c : Char} (h : Text.isLetter c.toLower = true) :
    Text.isLetter c = true := by
  by_cases hcapital : c.val ≥ 65 ∧ c.val ≤ 90
  · refine Text.CharTable.contains_iff.2 ⟨(0x41, 0x5A), List.mem_cons_self, ?_⟩
    simpa [UInt32.le_iff_toNat_le] using hcapital
  · have hsame : c.toLower = c := dif_neg hcapital
    rwa [hsame] at h

theorem isLetter_of_smallLetters {word letters : List Char} (h : Text.smallLetters word = letters)
    (hletters : letters.all Text.isLetter = true) : ∀ c ∈ word, Text.isLetter c = true := by
  intro c hm
  refine isLetter_of_toLower (List.all_eq_true.1 hletters _ ?_)
  rw [← h]
  exact List.mem_map_of_mem hm

theorem tokenizeList_number {c : Char} {cs rest : List Char} (hc : Text.isDigit c = true)
    (hcs : ∀ d ∈ cs, isNumberPart d = true) (hrest : ∀ d ∈ rest.head?, isNumberPart d = false) :
    tokenizeList (c :: cs ++ rest) =
      .number (String.ofList (c :: cs)) :: tokenizeList rest := by
  have hne (d : Char) (hd : Text.isDigit d = false) : c ≠ d := by
    rintro rfl
    rw [hd] at hc
    cases hc
  have hquote : isQuote c = false := by
    simp [isQuote, hne '\x27' (by decide), hne '\x22' (by decide)]
  have hcomparison : c ∉ ['>', '<', '!', '='] := by
    simp [hne '>' (by decide), hne '<' (by decide), hne '!' (by decide), hne '=' (by decide)]
  have hblank : Text.isBlank c = false := by
    rw [Text.isDigit_eq_contains] at hc
    have hapart : Text.digitTable.apart Text.blankTable = true := by decide
    exact Text.CharTable.contains_eq_false_of_apart hapart hc
  obtain ⟨htake, hdrop⟩ := takeWhile_append_of_forall hcs hrest
  rw [List.cons_append, tokenizeList_cons hblank, firstToken,
    delimited?_eq_none (hne '$' (by decide)) hquote, comparison?_eq_none hcomparison]
  simp only [hc, htake, hdrop, if_true]

/-- A word is the token that its letters spell. -/
theorem tokenizeList_wordToken {word rest : List Char} (hne : word ≠ [])
    (hletters : ∀ c ∈ word, Text.isLetter c = true)
    (hrest : ∀ c ∈ rest.head?, isWordPart c = false) :
    tokenizeList (word ++ rest) = wordToken word :: tokenizeList rest := by
  obtain ⟨c, cs, rfl⟩ := List.exists_cons_of_ne_nil hne
  obtain ⟨hc, hcs⟩ := List.forall_mem_cons.1 hletters
  exact tokenizeList_word (by simp [isWordStart, hc])
    (fun d hd => by simp [isWordPart, Text.isAlphanumeric, hcs d hd]) hrest

theorem tokenizeList_symbol {c : Char} {rest : List Char} (h : IsSymbol c)
    (hends : (Token.symbol c).EndsBefore rest) :
    tokenizeList (c :: rest) = .symbol c :: tokenizeList rest := by
  obtain ⟨hblank, hdigit, hword, hother⟩ := h
  obtain ⟨hexclamation, hquote, hdollar⟩ := hends
  simp only [List.mem_cons, List.not_mem_nil, or_false, not_or] at hother
  obtain ⟨hgreater, hless, hequal, hopen, hclose, hcomma⟩ := hother
  have hdelimited : delimited? (c :: rest) = none := by
    unfold delimited?
    split
    · rename_i name heq
      obtain ⟨rfl, rfl⟩ := List.cons.inj heq
      rw [Option.map_eq_none_iff, splitAt?_eq_none_iff]
      exact hdollar rfl name rfl
    · rename_i heq
      obtain ⟨rfl, rfl⟩ := List.cons.inj heq
      split
      · rename_i hc
        rw [Option.map_eq_none_iff, splitAt?_eq_none_iff]
        exact hquote hc
      · rfl
    · rfl
  have hcomparison : comparison? (c :: rest) = none := by
    unfold comparison?
    split <;> simp_all
  rw [tokenizeList_cons hblank, firstToken, hdelimited, hcomparison]
  simp [hdigit, hword, charToken, hopen, hclose, hcomma]

/-- A token is read from its lexeme, in front of whatever ends it. -/
theorem tokenizeList_spelled {token : Token} {lexeme rest : List Char} (h : token.Spelled lexeme)
    (hends : token.EndsBefore rest) :
    tokenizeList (lexeme ++ rest) = token :: tokenizeList rest := by
  cases h with
  | reference hname =>
    rw [List.cons_append, List.cons_append, List.append_assoc]
    exact tokenizeList_reference hname rest
  | literal hquote htext =>
    rw [List.cons_append, List.append_assoc]
    exact tokenizeList_literal hquote htext rest
  | comparison operator => exact tokenizeList_comparison hends
  | number hc hcs => exact tokenizeList_number hc hcs hends
  | and hand =>
    have hne : lexeme ≠ [] := by rintro rfl; cases hand
    rw [tokenizeList_wordToken hne (isLetter_of_smallLetters hand (by decide)) hends, wordToken,
      if_pos hand]
  | or hor =>
    have hne : lexeme ≠ [] := by rintro rfl; cases hor
    have hand : Text.smallLetters lexeme ≠ "and".toList := by rw [hor]; decide
    rw [tokenizeList_wordToken hne (isLetter_of_smallLetters hor (by decide)) hends, wordToken,
      if_neg hand, if_pos hor]
  | word hc hcs hand hor =>
    rw [List.cons_append, tokenizeList_word hc hcs hends, wordToken, if_neg hand, if_neg hor]
  | openParen => exact tokenizeList_char (by decide) rest
  | closeParen => exact tokenizeList_char (by decide) rest
  | comma => exact tokenizeList_char (by decide) rest
  | symbol hsymbol => exact tokenizeList_symbol hsymbol hends

/-! ## Texts -/

theorem tokenizeList_blanks {gap : List Char} (h : ∀ c ∈ gap, Text.isBlank c = true)
    (rest : List Char) : tokenizeList (gap ++ rest) = tokenizeList rest := by
  induction gap with
  | nil => rfl
  | cons c gap ih =>
    obtain ⟨hc, hgap⟩ := List.forall_mem_cons.1 h
    rw [List.cons_append, tokenizeList_blank hc, ih hgap]

/-- Blanks in front of a text belong to the first gap. -/
theorem SplitsInto.cons_blank {c : Char} (hc : Text.isBlank c = true) {cs : List Char}
    {tokens : List Token} {lexemes : List (List Char)} (h : SplitsInto cs tokens lexemes) :
    SplitsInto (c :: cs) tokens lexemes := by
  cases h with
  | blank hgap => exact .blank (List.forall_mem_cons.2 ⟨hc, hgap⟩)
  | @token gap _ _ _ _ _ hgap hspelled hends hrest =>
    exact @SplitsInto.token (c :: gap) _ _ _ _ _ (List.forall_mem_cons.2 ⟨hc, hgap⟩) hspelled hends
      hrest

/-- Every text is made up of the lexemes of its tokens. -/
theorem splitsInto_tokenizeList (cs : List Char) :
    ∃ lexemes, SplitsInto cs (tokenizeList cs) lexemes := by
  fun_induction tokenizeList cs with
  | case1 => exact ⟨[], .blank (List.forall_mem_nil _)⟩
  | case2 c cs hblank ih =>
    obtain ⟨lexemes, hsplits⟩ := ih
    exact ⟨lexemes, hsplits.cons_blank hblank⟩
  | case3 c cs hblank ih =>
    obtain ⟨lexemes, hsplits⟩ := ih
    obtain ⟨lexeme, heq, hspelled, hends⟩ := firstToken_spelled (Bool.eq_false_iff.2 hblank) cs
    refine ⟨lexeme :: lexemes, ?_⟩
    rw [heq]
    exact @SplitsInto.token [] _ _ _ _ _ (List.forall_mem_nil _) hspelled hends hsplits

theorem SplitsInto.tokenizeList_eq {cs : List Char} {tokens : List Token}
    {lexemes : List (List Char)} (h : SplitsInto cs tokens lexemes) : tokenizeList cs = tokens := by
  induction h with
  | @blank gap hgap =>
    have hblanks := tokenizeList_blanks hgap []
    rwa [List.append_nil, tokenizeList_nil] at hblanks
  | token hgap hspelled hends _ ih =>
    rw [List.append_assoc, tokenizeList_blanks hgap, tokenizeList_spelled hspelled hends, ih]

/-- The characters that are not blank. -/
def filled (cs : List Char) : List Char := cs.filter fun c => !Text.isBlank c

/-- Only blanks stand between the lexemes of a text. -/
theorem SplitsInto.filled_flatten {cs : List Char} {tokens : List Token}
    {lexemes : List (List Char)} (h : SplitsInto cs tokens lexemes) :
    filled lexemes.flatten = filled cs := by
  have hnone {gap : List Char} (hgap : ∀ c ∈ gap, Text.isBlank c = true) : filled gap = [] :=
    List.filter_eq_nil_iff.2 fun c hc => by simp [hgap c hc]
  induction h with
  | blank hgap => exact (hnone hgap).symm
  | token hgap _ _ _ ih =>
    unfold filled at ih hnone ⊢
    rw [List.flatten_cons, List.filter_append, List.filter_append, List.filter_append, ih,
      hnone hgap, List.nil_append]

/-- The tokens of an expression are those whose lexemes make it up. There are such tokens for every
expression; each character that is not blank is part of exactly one of the lexemes. -/
theorem tokenize_eq_iff {expression : String} {tokens : List Token} :
    tokenize expression = tokens ↔ ∃ lexemes, SplitsInto expression.toList tokens lexemes ∧
      filled lexemes.flatten = filled expression.toList := by
  constructor
  · rintro rfl
    obtain ⟨lexemes, hsplits⟩ := splitsInto_tokenizeList expression.toList
    exact ⟨lexemes, hsplits, hsplits.filled_flatten⟩
  · rintro ⟨lexemes, hsplits, -⟩
    exact hsplits.tokenizeList_eq

/-- A reference and a literal that are never closed fall apart. -/
example : tokenize "$\x7bage >= 'x" =
    [.symbol '$', .symbol '\x7b', .word "age", .comparison .atLeast, .symbol '\x27',
      .word "x"] := by
  decide +kernel

end Questionnaire.Relevance
