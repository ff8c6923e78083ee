/-!
# Letter case of the basic letters

Keywords are recognised whatever the case of their letters `A` to `Z`; every other character
stands for itself.

Main definitions:

* `smallLetters`: capital letters `A` to `Z` made small.
* `sameIgnoringCase`: equality up to the case of these letters.
-/

namespace Questionnaire.Text

/-- The letters `A` to `Z` made small. -/
def smallLetters (cs : List Char) : List Char := cs.map Char.toLower

def sameIgnoringCase (s t : String) : Bool := smallLetters s.toList == smallLetters t.toList

theorem sameIgnoringCase_iff {s t : String} :
    sameIgnoringCase s t = true ↔ smallLetters s.toList = smallLetters t.toList := by
  simp [sameIgnoringCase]

end Questionnaire.Text
