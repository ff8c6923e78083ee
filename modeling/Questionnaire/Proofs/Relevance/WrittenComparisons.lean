import Questionnaire.Proofs.Relevance.Lexemes
import Questionnaire.Proofs.Relevance.Operators
import Questionnaire.Proofs.Relevance.Sentence
import Questionnaire.Proofs.Text.Tidy

/-!
# Written comparisons

That a question has an answer, or has not, can be written in several ways. All of them reduce to the
same three tokens, and so they are put into the same words: a single condition, with a period behind
it.

Results:

* `reduced_tokenize_comparisonTexts`: the tokens of each way of writing a comparison.
* `text?_phrase_comparisonTexts`: their words in each language.
-/

namespace Questionnaire.Relevance

/-! ## Ways of writing a comparison -/

/-- The question is compared with the value by an operator. -/
def comparisonText (question : String) (operator : Comparison) (value : String) : String :=
  referenceText question ++ " " ++ operator.operator ++ " " ++ literalText value

/-- The value is among the answers of the question. -/
def selectionText (question value : String) : String :=
  "selected(" ++ referenceText question ++ ", " ++ literalText value ++ ")"

/-- The ways of writing that the answer of a question is a value, or is not. -/
def comparisonTexts (question value : String) : Comparison → List String
  | .equal => [comparisonText question .equal value, selectionText question value]
  | .notEqual =>
    [comparisonText question .notEqual value,
      "not(" ++ comparisonText question .equal value ++ ")",
      "not(" ++ selectionText question value ++ ")"]
  | _ => []

/-! ## Chunks -/

/-- The text is split into these tokens, whatever follows it. -/
def Lexes (text : String) (tokens : List Token) : Prop :=
  ∀ rest, tokenizeList (text.toList ++ rest) = tokens ++ tokenizeList rest

namespace Lexes

theorem append {text other : String} {tokens others : List Token} (h : Lexes text tokens)
    (hother : Lexes other others) : Lexes (text ++ other) (tokens ++ others) := by
  intro rest
  rw [String.toList_append, List.append_assoc, h, hother, List.append_assoc]

theorem tokenize {text : String} {tokens : List Token} (h : Lexes text tokens) :
    tokenize text = tokens := by
  have hnil := h []
  rwa [List.append_nil, tokenizeList_nil, List.append_nil] at hnil

end Lexes

theorem lexes_reference {question : String} (hquestion : Text.Tidy question)
    (hbrace : '\x7d' ∉ question.toList) : Lexes (referenceText question) [.reference question] := by
  intro rest
  have htrim : String.ofList (Text.trimList question.toList) = question := hquestion.trim_eq
  have hlist : (referenceText question).toList ++ rest =
      '$' :: '\x7b' :: (question.toList ++ '\x7d' :: rest) := by
    simp [referenceText]
  rw [hlist, tokenizeList_reference hbrace, htrim]
  rfl

theorem lexes_literal {value : String} (hvalue : '\x27' ∉ value.toList) :
    Lexes (literalText value) [.literal value] := by
  intro rest
  have hlist : (literalText value).toList ++ rest =
      '\x27' :: (value.toList ++ '\x27' :: rest) := by
    simp [literalText]
  rw [hlist, tokenizeList_literal (by decide) hvalue, String.ofList_toList]
  rfl

theorem lexes_blank : Lexes " " [] := tokenizeList_blank (by decide)

theorem lexes_openParen : Lexes "(" [.openParen] :=
  tokenizeList_char (by decide)

theorem lexes_closeParen : Lexes ")" [.closeParen] :=
  tokenizeList_char (by decide)

theorem lexes_comma : Lexes ", " [.comma] := by
  have hcomma : Lexes "," [.comma] := tokenizeList_char (by decide)
  exact hcomma.append lexes_blank

/-- The blank behind an operator ends it. -/
theorem lexes_operator (operator : Comparison) :
    Lexes (operator.operator ++ " ") [.comparison operator] := by
  intro rest
  have hnext : (" ".toList ++ rest).head? ≠ some '=' :=
    fun h => absurd (Option.some.inj h : ' ' = '=') (by decide)
  rw [String.toList_append, List.append_assoc, tokenizeList_comparison fun _ => hnext]
  exact congrArg _ (lexes_blank rest)

/-- The parenthesis behind the name of a function ends it. -/
theorem lexes_function {c : Char} {cs : List Char} (hc : isWordStart c = true)
    (hcs : cs.all isWordPart = true) :
    Lexes (String.ofList (c :: cs) ++ "(") [wordToken (c :: cs), .openParen] := by
  intro rest
  have hparen : ∀ d, ("(".toList ++ rest).head? = some d → isWordPart d = false := by
    intro d hd
    obtain rfl := Option.some.inj hd
    exact isWordPart_eq_false (by decide)
  rw [String.toList_append, String.toList_ofList, List.append_assoc, List.cons_append,
    tokenizeList_word hc (List.all_eq_true.1 hcs) hparen]
  exact congrArg _ (lexes_openParen rest)

theorem lexes_selected : Lexes "selected(" [.word "selected", .openParen] :=
  have hlexes : Lexes (String.ofList ('s' :: "elected".toList) ++ "(") _ :=
    lexes_function (by decide) (by decide)
  hlexes

theorem lexes_not : Lexes "not(" [.word "not", .openParen] :=
  have hlexes : Lexes (String.ofList ('n' :: "ot".toList) ++ "(") _ :=
    lexes_function (by decide) (by decide)
  hlexes

theorem lexes_true : Lexes "true()" [.word "true", .openParen, .closeParen] :=
  have hlexes : Lexes (String.ofList ('t' :: "rue".toList) ++ "(") _ :=
    lexes_function (by decide) (by decide)
  hlexes.append lexes_closeParen

/-! ## The tokens of a comparison -/

section

variable {question value : String} (hquestion : Text.Tidy question)
  (hbrace : '\x7d' ∉ question.toList) (hvalue : '\x27' ∉ value.toList)

include hquestion hbrace hvalue

theorem lexes_comparisonText (operator : Comparison) :
    Lexes (comparisonText question operator value)
      [.reference question, .comparison operator, .literal value] := by
  have hlexes := (lexes_reference hquestion hbrace).append
    (lexes_blank.append ((lexes_operator operator).append (lexes_literal hvalue)))
  simp only [String.append_assoc] at hlexes
  simp only [comparisonText, String.append_assoc]
  exact hlexes

theorem lexes_selectionText :
    Lexes (selectionText question value)
      [.word "selected", .openParen, .reference question, .comma, .literal value,
        .closeParen] := by
  have hlexes := lexes_selected.append ((lexes_reference hquestion hbrace).append
    (lexes_comma.append ((lexes_literal hvalue).append lexes_closeParen)))
  simp only [selectionText, String.append_assoc]
  exact hlexes

end

/-! ## Reducing -/

section

variable (question value : String)

theorem reduced_comparison (operator : Comparison) :
    reduced [.reference question, .comparison operator, .literal value] =
      [.reference question, .comparison operator, .literal value] := rfl

theorem reduced_selected :
    reduced [.word "selected", .openParen, .reference question, .comma, .literal value,
        .closeParen] =
      [.reference question, .comparison .equal, .literal value] := rfl

theorem reduced_notEqual :
    reduced [.word "not", .openParen, .reference question, .comparison .equal, .literal value,
        .closeParen] =
      [.reference question, .comparison .notEqual, .literal value] := rfl

theorem reduced_notSelected :
    reduced [.word "not", .openParen, .word "selected", .openParen, .reference question, .comma,
        .literal value, .closeParen, .closeParen] =
      [.reference question, .comparison .notEqual, .literal value] := rfl

end

/-! ## No blanks around -/

theorem tidy_referenceText (question : String) : Text.Tidy (referenceText question) := by
  have hdollar : Text.Tidy "$\x7b" := by decide
  have hbrace : Text.Tidy "\x7d" := by decide
  simpa only [referenceText, String.append_assoc] using hdollar.append hbrace question

theorem tidy_literalText (value : String) : Text.Tidy (literalText value) := by
  have hquote : Text.Tidy "'" := by decide
  simpa only [literalText, String.append_assoc] using hquote.append hquote value

theorem tidy_comparisonText (question : String) (operator : Comparison) (value : String) :
    Text.Tidy (comparisonText question operator value) := by
  have htidy := (tidy_referenceText question).append (tidy_literalText value)
    (" " ++ operator.operator ++ " ")
  simpa only [comparisonText, String.append_assoc] using htidy

theorem tidy_selectionText (question value : String) :
    Text.Tidy (selectionText question value) := by
  have hselected : Text.Tidy "selected(" := by decide
  have hparen : Text.Tidy ")" := by decide
  have htidy := hselected.append hparen (referenceText question ++ ", " ++ literalText value)
  simpa only [selectionText, String.append_assoc] using htidy

theorem tidy_not (text : String) : Text.Tidy ("not(" ++ text ++ ")") := by
  have hnot : Text.Tidy "not(" := by decide
  have hparen : Text.Tidy ")" := by decide
  simpa only [String.append_assoc] using hnot.append hparen text

/-! ## Any way of writing a comparison -/

/-- All ways of writing a comparison come down to the same tokens. -/
theorem reduced_tokenize_comparisonTexts {question value text : String} {operator : Comparison}
    (hquestion : Text.Tidy question) (hbrace : '\x7d' ∉ question.toList)
    (hvalue : '\x27' ∉ value.toList) (h : text ∈ comparisonTexts question value operator) :
    reduced (tokenize (Text.trim text)) =
      [.reference question, .comparison operator, .literal value] := by
  have hcomparison := lexes_comparisonText hquestion hbrace hvalue
  have hselection := lexes_selectionText hquestion hbrace hvalue
  cases operator with
  | equal =>
    simp only [comparisonTexts, List.mem_cons, List.not_mem_nil, or_false] at h
    obtain rfl | rfl := h
    · rw [(tidy_comparisonText _ _ _).trim_eq, (hcomparison .equal).tokenize, reduced_comparison]
    · rw [(tidy_selectionText _ _).trim_eq, hselection.tokenize, reduced_selected]
  | notEqual =>
    simp only [comparisonTexts, List.mem_cons, List.not_mem_nil, or_false] at h
    obtain rfl | rfl | rfl := h
    · rw [(tidy_comparisonText _ _ _).trim_eq, (hcomparison .notEqual).tokenize,
        reduced_comparison]
    · have hlexes := (lexes_not.append (hcomparison .equal)).append lexes_closeParen
      rw [(tidy_not _).trim_eq, hlexes.tokenize]
      exact reduced_notEqual question value
    · have hlexes := (lexes_not.append hselection).append lexes_closeParen
      rw [(tidy_not _).trim_eq, hlexes.tokenize]
      exact reduced_notSelected question value
  | _ => cases h

/-- An expression that has a question in front is worded. -/
theorem isWorded_of_reduced {text question : String} {rest : List Token}
    (h : reduced (tokenize (Text.trim text)) = .reference question :: rest) : IsWorded text := by
  have hempty : reduced (tokenize "") = [] := by
    rw [Relevance.tokenize, String.toList_empty, tokenizeList_nil]
    rfl
  have htrue : reduced (tokenize "true()") = [.word "true", .openParen, .closeParen] := by
    rw [lexes_true.tokenize]
    rfl
  constructor
  · intro htrim
    rw [htrim, hempty] at h
    cases h
  · intro htrim
    rw [htrim, htrue] at h
    cases h

/-! ## A single condition -/

theorem getLast?_span (className content : String) :
    (span className content).toList.getLast? = some '>' := by
  rw [span, String.toList_append, List.getLast?_append]
  rfl

/-- A period follows a text that ends in markup. -/
theorem sentence_precondition (precondition : Precondition) :
    sentence precondition.text = precondition.text ++ "." := by
  rw [sentence, if_neg]
  rw [Precondition.text, getLast?_span]
  decide

/-- However a comparison is written, it reads as one condition with a period behind it. -/
theorem text?_phrase_comparisonTexts {items : Forest} {languages : List Language}
    {options : Options} {language : Language} (hlanguage : language ∈ languages)
    {question value text : String} {operator : Comparison} (hquestion : Text.Tidy question)
    (hbrace : '\x7d' ∉ question.toList) (hvalue : '\x27' ∉ value.toList)
    (h : text ∈ comparisonTexts question value operator) :
    (phrase items languages options text).text.text? language =
      some ((Precondition.ofSegments
        ((Reader.mk items language options).comparisonSegments question operator value)).text
          ++ ".") := by
  have hreduced := reduced_tokenize_comparisonTexts hquestion hbrace hvalue h
  have hrender := (Reader.mk items language options).render_comparison [] question operator value []
  have hnil : (Reader.mk items language options).render .connectives [] = "" := by
    simp [Reader.render, pieces, Fragment.concat, Fragment.concatAfter]
  rw [hnil, String.empty_append, String.append_empty, List.nil_append, List.append_nil] at hrender
  rw [text?_phrase (isWorded_of_reduced hreduced) hlanguage, hreduced, hrender,
    sentence_precondition]

end Questionnaire.Relevance
