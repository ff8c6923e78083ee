import Questionnaire.Relevance.Lexer

/-!
# Lexemes

A token is read from its lexeme at the front of a text, whatever follows it, as long as what follows
cannot go on with the lexeme.

Results:

* `tokenizeList_reference`, `tokenizeList_literal`, `tokenizeList_comparison`, `tokenizeList_word`,
  `tokenizeList_char`: the lexeme of each kind of token in front of any text.
-/

namespace Questionnaire

namespace Text

/-! ## Classes of characters -/

/-- No range of one table meets a range of the other. -/
def CharTable.apart (table other : CharTable) : Bool :=
  table.all fun range => other.all fun range' => range.2 < range'.1 || range'.2 < range.1

theorem CharTable.contains_eq_false_of_apart {table other : CharTable}
    (h : table.apart other = true) {c : Char} (hc : table.contains c = true) : other.contains c = false := by
  refine Bool.eq_false_iff.2 fun hother => ?_
  obtain ⟨range, hm, hle, hge⟩ := contains_iff.1 hc
  obtain ⟨range', hm', hle', hge'⟩ := contains_iff.1 hother
  have hrange := List.all_eq_true.1 (List.all_eq_true.1 h range hm) range' hm'
  simp only [Bool.or_eq_true, decide_eq_true_eq] at hrange
  omega

theorem apart_letterTable_blankTable : letterTable.apart blankTable = true := by decide +kernel

/-- The digits as a table. -/
def digitTable : CharTable := [(0x30, 0x39)]

theorem apart_letterTable_digitTable : letterTable.apart digitTable = true := by decide +kernel

theorem isDigit_eq_contains (c : Char) : isDigit c = digitTable.contains c := by
  simp only [isDigit, digitTable, CharTable.contains, List.any_cons, List.any_nil, Bool.or_false,
    Char.le_def, UInt32.le_iff_toNat_le]
  rfl

end Text

namespace Relevance

/-! ## References and literals -/

theorem splitAt?_append {stop : Char} {front : List Char} (h : stop ∉ front) (rest : List Char) :
    splitAt? stop (front ++ stop :: rest) = some (front, rest) :=
  splitAt?_eq_some_iff.2 ⟨rfl, h⟩

theorem tokenizeList_of_delimited? {c : Char} {cs rest : List Char} {token : Token}
    (hblank : Text.isBlank c = false) (h : delimited? (c :: cs) = some (token, rest)) :
    tokenizeList (c :: cs) = token :: tokenizeList rest := by
  rw [tokenizeList_cons hblank, firstToken, h]

theorem tokenizeList_reference {name : List Char} (h : '\x7d' ∉ name) (rest : List Char) :
    tokenizeList ('$' :: '\x7b' :: (name ++ '\x7d' :: rest)) =
      .reference (String.ofList (Text.trimList name)) :: tokenizeList rest := by
  refine tokenizeList_of_delimited? (by decide) ?_
  rw [delimited?, splitAt?_append h]
  rfl

theorem tokenizeList_literal {quote : Char} (hquote : isQuote quote = true) {text : List Char}
    (h : quote ∉ text) (rest : List Char) :
    tokenizeList (quote :: (text ++ quote :: rest)) =
      .literal (String.ofList text) :: tokenizeList rest := by
  have hblank : Text.isBlank quote = false := by
    simp only [isQuote, Bool.or_eq_true, decide_eq_true_eq] at hquote
    obtain rfl | rfl := hquote <;> decide
  have hdollar : quote ≠ '$' := by
    rintro rfl
    exact absurd hquote (by decide)
  refine tokenizeList_of_delimited? hblank ?_
  rw [delimited?.eq_2 _ _ fun _ heq => absurd heq hdollar, if_pos hquote, splitAt?_append h]
  rfl

/-! ## Comparisons -/

theorem delimited?_eq_none {c : Char} (hdollar : c ≠ '$') (hquote : isQuote c = false)
    (cs : List Char) : delimited? (c :: cs) = none := by
  rw [delimited?.eq_2 _ _ fun _ heq => absurd heq hdollar, hquote]
  rfl

theorem comparison?_operator {operator : Comparison} {rest : List Char}
    (h : operator = .greater ∨ operator = .less → rest.head? ≠ some '=') :
    comparison? (operator.operator.toList ++ rest) = some (operator, rest) := by
  cases operator with
  | greater => cases rest <;> simp_all [Comparison.operator, comparison?]
  | less => cases rest <;> simp_all [Comparison.operator, comparison?]
  | _ => rfl

/-- An operator that begins a longer one is read unless the text goes on with the longer one. -/
theorem tokenizeList_comparison {operator : Comparison} {rest : List Char}
    (h : operator = .greater ∨ operator = .less → rest.head? ≠ some '=') :
    tokenizeList (operator.operator.toList ++ rest) =
      .comparison operator :: tokenizeList rest := by
  have hread := comparison?_operator h
  obtain ⟨c, cs, hcons, hblank, hdollar, hquote⟩ : ∃ c cs, operator.operator.toList = c :: cs ∧
      Text.isBlank c = false ∧ c ≠ '$' ∧ isQuote c = false := by
    cases operator <;> exact ⟨_, _, rfl, by decide, by decide, by decide⟩
  rw [hcons, List.cons_append] at hread ⊢
  rw [tokenizeList_cons hblank, firstToken, delimited?_eq_none hdollar hquote, hread]

/-! ## Words -/

theorem isBlank_of_isWordStart {c : Char} (h : isWordStart c = true) : Text.isBlank c = false := by
  simp only [isWordStart, Bool.or_eq_true, decide_eq_true_eq] at h
  obtain h | rfl := h
  · exact Text.CharTable.contains_eq_false_of_apart Text.apart_letterTable_blankTable h
  · decide

theorem isDigit_of_isWordStart {c : Char} (h : isWordStart c = true) : Text.isDigit c = false := by
  simp only [isWordStart, Bool.or_eq_true, decide_eq_true_eq] at h
  obtain h | rfl := h
  · rw [Text.isDigit_eq_contains]
    exact Text.CharTable.contains_eq_false_of_apart Text.apart_letterTable_digitTable h
  · decide

theorem comparison?_eq_none {c : Char} (h : c ∉ ['>', '<', '!', '=']) (cs : List Char) :
    comparison? (c :: cs) = none := by
  have hne : c ≠ '>' ∧ c ≠ '<' ∧ c ≠ '!' ∧ c ≠ '=' := by simpa using h
  unfold comparison?
  split <;> simp_all

/-- The characters that other tokens start with. -/
def otherStarts : List Char := ['$', '\x27', '\x22'] ++ ['>', '<', '!', '='] ++ ['(', ')', ',']

/-- No word holds a character that other tokens start with. -/
theorem isWordPart_eq_false {c : Char} (h : c ∈ otherStarts) : isWordPart c = false := by
  have hall : otherStarts.all (fun c => !isWordPart c) = true := by decide +kernel
  simpa using List.all_eq_true.1 hall c h

theorem isWordStart_eq_false {c : Char} (h : c ∈ otherStarts) : isWordStart c = false := by
  have hpart := isWordPart_eq_false h
  simp only [isWordPart, Text.isAlphanumeric, Bool.or_eq_false_iff] at hpart
  simp [isWordStart, hpart]

theorem takeWhile_append_of_forall {p : Char → Bool} {front rest : List Char}
    (hfront : ∀ c ∈ front, p c = true) (hrest : ∀ c, rest.head? = some c → p c = false) :
    (front ++ rest).takeWhile p = front ∧ (front ++ rest).dropWhile p = rest := by
  rw [List.takeWhile_append_of_pos hfront, List.dropWhile_append_of_pos hfront]
  cases rest with
  | nil => exact ⟨List.append_nil front, rfl⟩
  | cons c rest =>
    have hc := hrest c rfl
    exact ⟨by simp [hc], by simp [hc]⟩

/-- A word ends where no part of a word follows. -/
theorem tokenizeList_word {c : Char} {cs rest : List Char} (hc : isWordStart c = true)
    (hcs : ∀ d ∈ cs, isWordPart d = true)
    (hrest : ∀ d, rest.head? = some d → isWordPart d = false) :
    tokenizeList (c :: (cs ++ rest)) = wordToken (c :: cs) :: tokenizeList rest := by
  have hne (d : Char) (hd : d ∈ otherStarts) : c ≠ d := by
    rintro rfl
    rw [isWordStart_eq_false hd] at hc
    cases hc
  have hquote : isQuote c = false := by
    simp [isQuote, hne '\x27' (by decide), hne '\x22' (by decide)]
  have hcomparison : c ∉ ['>', '<', '!', '='] := fun hm =>
    hne c (List.mem_append_left _ (List.mem_append_right _ hm)) rfl
  obtain ⟨htake, hdrop⟩ := takeWhile_append_of_forall hcs hrest
  rw [tokenizeList_cons (isBlank_of_isWordStart hc), firstToken,
    delimited?_eq_none (hne '$' (by decide)) hquote, comparison?_eq_none hcomparison,
    isDigit_of_isWordStart hc]
  simp only [hc, htake, hdrop, if_true]
  rfl

/-! ## Characters -/

/-- Parentheses and commas are tokens of their own. -/
theorem tokenizeList_char {c : Char} (h : c ∈ ['(', ')', ',']) (rest : List Char) :
    tokenizeList (c :: rest) = charToken c :: tokenizeList rest := by
  have hword : isWordStart c = false :=
    isWordStart_eq_false (List.mem_append_right _ h)
  simp only [List.mem_cons, List.not_mem_nil, or_false] at h
  obtain rfl | rfl | rfl := h
  all_goals
    rw [tokenizeList_cons (by decide), firstToken, delimited?_eq_none (by decide) (by decide),
      comparison?_eq_none (by decide), hword]
    rfl

end Relevance

end Questionnaire
