/-!
# Tables of characters

A property of characters is kept as a table of ranges of code points, in ascending order. A
character has the property when some range of the table covers it.

Main definitions:

* `CharTable.contains`: membership of a character in a table.
-/

namespace Questionnaire.Text

/-- Ranges of code points, each given by its first and its last one. -/
abbrev CharTable := List (Nat × Nat)

/-- A character is in a table when one of the ranges covers its code point. -/
def CharTable.contains (table : CharTable) (c : Char) : Bool :=
  table.any fun range => range.1 ≤ c.toNat && c.toNat ≤ range.2

theorem CharTable.contains_iff {table : CharTable} {c : Char} :
    table.contains c = true ↔ ∃ range ∈ table, range.1 ≤ c.toNat ∧ c.toNat ≤ range.2 := by
  simp [CharTable.contains]

end Questionnaire.Text
