import Questionnaire.Relevance.Lexer
import Questionnaire.Relevance.Reduction
import Questionnaire.Relevance.Rendering

/-!
# Conditions in words

An expression is split into tokens, reduced, and put into the words of each language. Every step
on the way is kept. A step is the text at one point in all languages; a language that needs fewer
steps than another stays at its last text.

Main definitions:

* `readerSteps`: the texts of an expression in one language.
* `phrase`: the condition in words with its steps.
-/

namespace Questionnaire.Relevance

/-- The condition of an item that is always relevant. -/
def alwaysRelevant : String := "Always relevant."

/-- An expression in words, with the steps from the expression itself on. -/
structure Phrasing where
  text : Localized
  steps : List Localized
  deriving DecidableEq

/-- A finished sentence ends in a period; one that does not is finished by another step. -/
def finished (texts : List String) : List String :=
  match texts.getLast? with
  | some last => if last.toList.getLast? = some '.' then texts else texts ++ [last ++ "."]
  | none => []

/-- The texts in one language: the tokens and what each rule makes of them, then the stages of the
wording. -/
def readerSteps (reader : Reader) (tokens : List Token) : List String :=
  finished
    ((reductions (sugarRules ++ [answeredRule]) tokens).map (reader.render .tokens)
      ++ Stage.worded.map fun stage => reader.render stage (reduced tokens))

/-- The text of each language at a point, or its last text behind the end. -/
def stepAt (texts : List (Language × List String)) (index : Nat) : Localized :=
  .ofList (texts.map fun entry => (entry.1, entry.2[index]?.or entry.2.getLast?))

/-- The number of steps that the slowest language needs. -/
def stepCount (texts : List (Language × List String)) : Nat :=
  (texts.map fun entry => entry.2.length).foldl max 0

/-- Puts an expression into each of the languages. -/
def phrase (items : Forest) (languages : List Language) (options : Options)
    (expression : String) : Phrasing :=
  let expression := Text.trim expression
  if expression = "" ∨ expression = "true()" then
    let text := Localized.constant languages alwaysRelevant
    ⟨text, [text]⟩
  else
    let tokens := tokenize expression
    let texts := languages.map fun language =>
      (language, readerSteps ⟨items, language, options⟩ tokens)
    let steps := Localized.constant languages expression
      :: (List.range (stepCount texts)).map (stepAt texts)
    ⟨steps.getLast?.getD .empty, steps⟩

end Questionnaire.Relevance
