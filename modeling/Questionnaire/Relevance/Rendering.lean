import Questionnaire.Item.Forest
import Questionnaire.Options
import Questionnaire.Relevance.Markup
import Questionnaire.Relevance.Piece
import Questionnaire.Relevance.Wording

/-!
# Putting an expression into words

The tokens of an expression are put into the words of a language in stages, each of which words
more of them. Questions and answers are looked up among the items of the survey; those that do not
exist are said to be missing.

Main definitions:

* `Stage`: how far the wording has gone.
* `Reader`: for whom an expression is put into words.
* `Reader.render`: the text of a token list at a stage.

Results:

* `Reader.render_congr`: what readers of one language know only shows in their words for questions
  and for comparisons.
-/

namespace Questionnaire.Relevance

/-! ## Stages -/

/-- What is worded at each stage, together with all before it. -/
inductive Stage where
  | tokens
  | idioms
  | operators
  | parentheses
  | comparisons
  | references
  | connectives
  deriving DecidableEq

namespace Stage

/-- The place of a stage in the order. -/
def rank : Stage → Nat
  | .tokens => 0
  | .idioms => 1
  | .operators => 2
  | .parentheses => 3
  | .comparisons => 4
  | .references => 5
  | .connectives => 6

/-- The stage comes at or behind the other one. -/
def reaches (stage other : Stage) : Bool := other.rank ≤ stage.rank

/-- The stages that word the reduced tokens. -/
def worded : List Stage :=
  [.idioms, .operators, .parentheses, .comparisons, .references, .connectives]

end Stage

/-! ## Readers -/

/-- The items in which questions are looked up, and the language and options of the wording. -/
structure Reader where
  items : Forest
  language : Language
  options : Options

namespace Reader

def register (reader : Reader) : Register := .ofLanguage reader.language

/-! ## Tokens -/

def comparisonText (reader : Reader) (stage : Stage) (operator : Comparison) : String :=
  if stage.reaches .operators then reader.register.comparison operator else operator.operator

/-- The text of a token on its own. -/
def tokenText (reader : Reader) (stage : Stage) (token : Token) : String :=
  match token with
  | .comparison operator => reader.comparisonText stage operator
  | .selectedMoreThan count =>
    if stage.reaches .idioms then
      "was answered with more than " ++ counted count "option" "options"
    else token.display
  | .lengthEquals count =>
    if stage.reaches .idioms then
      "was answered with " ++ counted count "character" "characters"
    else token.display
  | .notAnswered => if stage.reaches .idioms then "was NOT answered" else token.display
  | _ => token.display

/-! ## Questions and answers -/

def questionNotFound (name : String) : Segment :=
  ⟨.notFound, "Question \"" ++ name ++ "\" not found;"⟩

def answerNotFound (id : String) : Segment :=
  ⟨.notFound, "Answer \"" ++ id ++ "\" not found;"⟩

/-- The label of a question, looked up under `name`. -/
def questionLabel (reader : Reader) (name : String) (question : Question) : Segment :=
  match question.label.text? reader.language with
  | some label => ⟨.question, label⟩
  | none => ⟨.question, "Question \"" ++ name ++ "\" translation not found;"⟩

def questionSegment (reader : Reader) (name : String) : Segment :=
  match reader.items.question? name with
  | some question => reader.questionLabel name question
  | none => questionNotFound name

/-- The label of an answer. -/
def answerSegment (reader : Reader) (question : Question) (id : String) : Segment :=
  match question.answer? id with
  | none => answerNotFound id
  | some answer =>
    match answer.label.text? reader.language with
    | some label => ⟨.answer, label⟩
    | none => ⟨.answer, "Answer \"" ++ id ++ "\" translation not found;"⟩

/-- The question is a calculation whose name starts with `is`, which is true or false. -/
def isBoolean (reader : Reader) (question : Question) : Bool :=
  reader.options.calculationsAsBoolean && question.type.type = .calculate
    && (Text.dropPrefix? "is".toList (Text.smallLetters question.name.toList)).isSome

/-- The truth value of a literal. -/
def truthValue? (value : String) : Option String :=
  if value = "0" then some "False" else if value = "1" then some "True" else none

/-! ## Pieces -/

/-- A comparison of a question with a literal. -/
def comparisonSegments (reader : Reader) (name : String) (operator : Comparison)
    (value : String) : List Segment :=
  let worded : Segment := ⟨.comparison, reader.register.comparison operator⟩
  match reader.items.question? name with
  | none => [questionNotFound name, worded, answerNotFound value]
  | some question =>
    let label := reader.questionLabel name question
    if question.type.type.requiresAnswers then
      [label, worded, reader.answerSegment question value]
    else
      match reader.isBoolean question, truthValue? value with
      | true, some truth => [label, ⟨.comparison, "is"⟩, ⟨.answer, truth⟩]
      | _, _ => [label, worded, ⟨.answer, value⟩]

/-- A question and what is said about it. -/
def referenceSegments (reader : Reader) (name tail : String) : List Segment :=
  reader.questionSegment name :: if tail = "" then [] else [⟨.tail, tail⟩]

def openParenMarkup : Precondition := ⟨"", [⟨.parenthesis, "("⟩], "&nbsp;"⟩

def closeParenMarkup : Precondition := ⟨"&nbsp;", [⟨.parenthesis, ")"⟩], ""⟩

def connectiveMarkup (reader : Reader) (connective : Connective) : Precondition :=
  ⟨" ", [⟨.connective, "&nbsp;" ++ reader.register.connective connective ++ "&nbsp;"⟩], " "⟩

/-- A piece, as far as the stage words it. -/
def fragment (reader : Reader) (stage : Stage) : Piece → Fragment
  | .comparison question operator value =>
    if stage.reaches .comparisons then
      .markup (.ofSegments (reader.comparisonSegments question operator value))
    else
      .plain (referenceText question ++ " " ++ reader.comparisonText stage operator ++ " "
        ++ literalText value)
  | .reference question tail =>
    let texts := tail.map (reader.tokenText stage)
    if stage.reaches .references then
      .markup (.ofSegments (reader.referenceSegments question (Text.joinWith " " texts)))
    else .plain (Text.joinWith " " (referenceText question :: texts))
  | .single .openParen =>
    if stage.reaches .parentheses then .markup openParenMarkup
    else .plain (reader.tokenText stage .openParen)
  | .single .closeParen =>
    if stage.reaches .parentheses then .markup closeParenMarkup
    else .plain (reader.tokenText stage .closeParen)
  | .single (.connective connective) =>
    if stage.reaches .connectives then .markup (reader.connectiveMarkup connective)
    else .plain (reader.tokenText stage (.connective connective))
  | .single token => .plain (reader.tokenText stage token)

/-- The text of a token list at a stage. -/
def render (reader : Reader) (stage : Stage) (tokens : List Token) : String :=
  Fragment.concat ((pieces tokens).map (reader.fragment stage))

/-! ## Readers of one language -/

section

variable {items others : Forest} {language : Language} {options otherOptions : Options}
  (hquestion : ∀ name, questionSegment ⟨items, language, options⟩ name =
    questionSegment ⟨others, language, otherOptions⟩ name)
  (hcomparison : ∀ name operator value,
    comparisonSegments ⟨items, language, options⟩ name operator value =
      comparisonSegments ⟨others, language, otherOptions⟩ name operator value)

include hquestion hcomparison

theorem fragment_congr (stage : Stage) (piece : Piece) :
    fragment ⟨items, language, options⟩ stage piece =
      fragment ⟨others, language, otherOptions⟩ stage piece := by
  unfold fragment
  cases piece with
  | comparison question operator value =>
    dsimp only
    rw [hcomparison]
    rfl
  | reference question tail =>
    unfold referenceSegments
    dsimp only
    rw [hquestion]
    rfl
  | single token => cases token <;> rfl

theorem render_congr :
    render ⟨items, language, options⟩ = render ⟨others, language, otherOptions⟩ := by
  funext stage tokens
  unfold render
  rw [funext (fragment_congr hquestion hcomparison stage)]

end

end Reader

end Questionnaire.Relevance
