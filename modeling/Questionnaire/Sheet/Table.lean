import Questionnaire.Header

/-!
# Worksheets as tables

Vacant rows count for nothing. The first filled row of a worksheet is its header, the others are
its content, of which there must be some.

Results:

* `Worksheet.table_eq_ok_iff`: a table is found exactly when there are two filled rows or more.
-/

namespace Questionnaire

/-- A header row with at least one content row. -/
structure SheetTable where
  header : Header
  first : Row
  others : List Row

/-- The content rows in sheet order. -/
def SheetTable.content (table : SheetTable) : List Row := table.first :: table.others

/-- The header and the content of a worksheet. -/
def Worksheet.table (worksheet : Worksheet) (sheet : SheetKind) : Except FormError SheetTable :=
  match worksheet.filledRows with
  | [] => .error (.worksheetBlank sheet)
  | [_] => .error (.contentMissing sheet)
  | header :: first :: others => .ok ⟨Header.ofRow sheet header, first, others⟩

theorem Worksheet.table_eq_ok_iff {worksheet : Worksheet} {sheet : SheetKind}
    {table : SheetTable} :
    worksheet.table sheet = .ok table ↔
      ∃ header, worksheet.filledRows = header :: table.content ∧
        table.header = Header.ofRow sheet header := by
  unfold Worksheet.table SheetTable.content
  obtain ⟨h, first, others⟩ := table
  split
  · simp [*]
  · simp [*]
  · rename_i header f os heq
    rw [heq]
    simp only [Except.ok.injEq, SheetTable.mk.injEq, List.cons.injEq]
    constructor
    · rintro ⟨rfl, rfl, rfl⟩
      exact ⟨header, ⟨rfl, rfl, rfl⟩, rfl⟩
    · rintro ⟨_, ⟨rfl, rfl, rfl⟩, rfl⟩
      exact ⟨rfl, rfl, rfl⟩

end Questionnaire
