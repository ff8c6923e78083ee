import Questionnaire.Language
import Questionnaire.Relevance.Token

/-!
# Words and symbols

English conditions are worded; in other languages operators stay symbols.

Main definitions:

* `Register`, `Register.comparison`, `Register.connective`.
-/

namespace Questionnaire.Relevance

inductive Register where
  | words
  | symbols
  deriving DecidableEq

namespace Register

def ofLanguage (language : Language) : Register :=
  if language.isEnglish then .words else .symbols

def comparison : Register → Comparison → String
  | .words, .atLeast => "is greater than or equal with"
  | .words, .greater => "is greater than"
  | .words, .atMost => "is less than or equal with"
  | .words, .less => "is less than"
  | .words, .notEqual => "was NOT answered with"
  | .words, .equal => "was answered with"
  | .symbols, .atLeast => "≥"
  | .symbols, .greater => "&gt;"
  | .symbols, .atMost => "≤"
  | .symbols, .less => "&lt;"
  | .symbols, .notEqual => "≠"
  | .symbols, .equal => "="

def connective : Register → Connective → String
  | .words, .and => "AND"
  | .words, .or => "OR"
  | .symbols, .and => "&amp;&amp;"
  | .symbols, .or => "||"

theorem comparison_injective {register : Register} {operator other : Comparison}
    (h : register.comparison operator = register.comparison other) : operator = other := by
  revert h
  cases register <;> cases operator <;> cases other <;> decide

end Register

/-- A count with its unit. The count is a text: only `1` itself is singular. -/
def counted (count singular plural : String) : String :=
  count ++ " " ++ (if count = "1" then singular else plural)

end Questionnaire.Relevance
