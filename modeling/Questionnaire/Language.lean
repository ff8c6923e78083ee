import Questionnaire.Text.Ascii
import Questionnaire.Text.Casing
import Questionnaire.Text.Letter
import Questionnaire.Text.Search

/-!
# Languages

A language is known by its label, the part of a column title behind `::`, and has an identifier
made from it: its letters and numerals in lower case, behind an `l` when they do not begin with a
letter.

Results:

* `identifier_ne_nil`: no identifier is empty.
* `startsWithLetter_identifier`: every identifier begins with a letter.
-/

namespace Questionnaire

structure Language where
  id : String
  label : String
  deriving DecidableEq

namespace Language

/-- The identifier that a label gives rise to. -/
def identifier (label : List Char) : List Char :=
  let name := Text.foldedList (label.filter Text.isAlphanumeric)
  if Text.startsWithLetter name then name else 'l' :: name

/-- The language with the given label. -/
def ofLabel (label : String) : Language where
  id := String.ofList (identifier label.toList)
  label := label

theorem startsWithLetter_identifier (label : List Char) :
    Text.startsWithLetter (identifier label) = true := by
  simp only [identifier]
  split
  · assumption
  · exact (by decide : Text.isLetter 'l' = true)

theorem identifier_ne_nil (label : List Char) : identifier label ≠ [] := by
  intro h
  have := startsWithLetter_identifier label
  rw [h] at this
  cases this

/-- Labels with `english` or `(en)` in them, in any letter case, are English. -/
def isEnglish (language : Language) : Bool :=
  let label := Text.smallLetters language.label.toList
  Text.containsList "english".toList label || Text.containsList "(en)".toList label

end Language

end Questionnaire
