/-!
# Tokens of a relevance expression

The expression of a row says when its item is relevant. It is made of references to questions,
literals, numbers, comparisons, connectives, words and other characters. A few tokens stand for
whole idioms, which only a reduction brings about.

Main definitions:

* `Token`, and `Token.display`, the way a token is shown before it is put into words.
-/

namespace Questionnaire.Relevance

inductive Comparison where
  | atLeast
  | greater
  | atMost
  | less
  | notEqual
  | equal
  deriving DecidableEq

/-- The operator as it is written in an expression. -/
def Comparison.operator : Comparison → String
  | .atLeast => ">="
  | .greater => ">"
  | .atMost => "<="
  | .less => "<"
  | .notEqual => "!="
  | .equal => "="

inductive Connective where
  | and
  | or
  deriving DecidableEq

inductive Token where
  /-- A question, by its name. -/
  | reference (name : String)
  /-- A quoted text, without its quotes. -/
  | literal (text : String)
  | number (text : String)
  | comparison (operator : Comparison)
  | connective (connective : Connective)
  | openParen
  | closeParen
  | comma
  /-- The name of a function, or any other. -/
  | word (text : String)
  /-- Any other character. -/
  | symbol (char : Char)
  /-- More than so many answers were selected. -/
  | selectedMoreThan (count : String)
  /-- The answer has so many characters. -/
  | lengthEquals (count : String)
  | notAnswered
  deriving DecidableEq

/-- The way a reference is written. -/
def referenceText (name : String) : String := "$\x7b" ++ name ++ "\x7d"

/-- The way a literal is shown. -/
def literalText (text : String) : String := "'" ++ text ++ "'"

def Token.display : Token → String
  | .reference name => referenceText name
  | .literal text => literalText text
  | .number text | .word text => text
  | .comparison operator => operator.operator
  | .connective .and => "\x7b\x7b AND \x7d\x7d"
  | .connective .or => "\x7b\x7b OR \x7d\x7d"
  | .openParen => "("
  | .closeParen => ")"
  | .comma => ","
  | .symbol char => String.ofList [char]
  | .selectedMoreThan count => "selected> " ++ count
  | .lengthEquals count => "length= " ++ count
  | .notAnswered => "=∅"

end Questionnaire.Relevance
