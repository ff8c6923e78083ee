import Questionnaire.Form.Error
import Questionnaire.Workbook

/-!
# Header rows

The first filled row of a worksheet holds the titles of its columns. Titles are compared after
trimming, and of several columns with one title the first counts.

Results:

* `Header.column_eq_ok_iff`, `Header.anyColumn_eq_ok_iff`: a column is found exactly when it is the
  first with its title.
* `Header.mem_titled_iff`: the titled columns are those with a title.
-/

namespace Questionnaire

structure Header where
  sheet : SheetKind
  titles : List (Option String)
  deriving DecidableEq

namespace Header

def ofRow (sheet : SheetKind) (row : Row) : Header where
  sheet := sheet
  titles := row.cells.map cellText

/-- The columns with a title, in order. -/
def titled (header : Header) : List (Nat × String) :=
  header.titles.zipIdx.filterMap fun (title, column) => title.map (column, ·)

/-- The first column with the title. -/
def position? (header : Header) (title : String) : Option Nat :=
  (header.titled.find? fun entry => entry.2 = title).map Prod.fst

/-- The column with the title, which must exist. -/
def column (header : Header) (title : String) : Except FormError Nat :=
  match header.position? title with
  | some column => .ok column
  | none => .error (.columnMissing title header.sheet)

/-- The column with the first of the titles that exists. -/
def anyColumn? (header : Header) (titles : List String) : Option Nat :=
  titles.findSome? header.position?

/-- The column with the first of the titles that exists, one of which must. -/
def anyColumn (header : Header) (titles : List String) : Except FormError Nat :=
  match header.anyColumn? titles with
  | some column => .ok column
  | none => .error (.synonymsMissing titles header.sheet)

theorem mem_titled_iff {header : Header} {column : Nat} {title : String} :
    (column, title) ∈ header.titled ↔ header.titles[column]? = some (some title) := by
  simp only [titled, List.mem_filterMap, Prod.exists, List.mk_mem_zipIdx_iff_getElem?]
  constructor
  · rintro ⟨entry, index, hm, he⟩
    cases entry with
    | none => simp at he
    | some t =>
      simp only [Option.map_some, Option.some.injEq, Prod.mk.injEq] at he
      rw [← he.1, ← he.2]
      exact hm
  · exact fun h => ⟨some title, column, h, rfl⟩

theorem column_eq_ok_iff {header : Header} {title : String} {column : Nat} :
    header.column title = .ok column ↔ header.position? title = some column := by
  unfold Header.column
  split <;> simp_all

theorem anyColumn_eq_ok_iff {header : Header} {titles : List String} {column : Nat} :
    header.anyColumn titles = .ok column ↔ header.anyColumn? titles = some column := by
  unfold Header.anyColumn
  split <;> simp_all

end Header

end Questionnaire
