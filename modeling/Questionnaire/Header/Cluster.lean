import Questionnaire.Header
import Questionnaire.Language.Localized

/-!
# Column clusters

A text in several languages takes several columns: `label::English`, `label::French` and so on.
The columns with one stem form a cluster. Behind the stem and `::` stands the tail, which becomes
the label of the language once it is presentable.

Main definitions:

* `Header.cluster`: the cluster of a stem.
* `presentableTails`: the labels made of the tails.
* `Cluster.localized`: the text of a row in the languages of the cluster.
-/

namespace Questionnaire

/-- Stands between the stem of a title and its language. -/
def clusterSeparator : String := "::"

/-- One column of a cluster: its whole title, and the label of its language. -/
structure ClusterColumn where
  title : String
  tail : String
  column : Nat
  deriving DecidableEq

def ClusterColumn.language (column : ClusterColumn) : Language := Language.ofLabel column.tail

/-- The columns with one stem, in order. -/
structure Cluster where
  stem : String
  columns : List ClusterColumn
  deriving DecidableEq

/-! ## Tails -/

/-- The trimmed text behind the stem and the separator; nothing behind the stem alone. -/
def clusterTail? (stem title : String) : Option String :=
  if title = stem then some ""
  else (Text.dropPrefix? (stem ++ clusterSeparator).toList title.toList).map fun tail =>
    String.ofList (Text.trimList tail)

/-- The name of the `n`-th language of a cluster that names none. -/
def numberedLanguage (n : Nat) : String := String.ofList ("Language ".toList ++ Text.padded 2 n)

/-- A tail that does not start with a letter is put behind an `L`. -/
def letteredTail (tail : String) : String :=
  if Text.startsWithLetter tail.toList then tail else Text.trim ("L " ++ tail)

/-- The labels of the languages. A single tail without letters and numerals is that of the only
language; several tails of which none starts with a letter are numbered. -/
def presentableTails (tails : List String) : List String :=
  match tails with
  | [tail] =>
    if tail.toList.any Text.isAlphanumeric then [letteredTail tail] else ["Only Language"]
  | tails =>
    if tails.any fun tail => Text.startsWithLetter tail.toList then tails.map letteredTail
    else (List.range tails.length).map fun index => numberedLanguage (index + 1)

theorem length_presentableTails (tails : List String) :
    (presentableTails tails).length = tails.length := by
  unfold presentableTails
  split
  · split <;> rfl
  · split <;> simp

/-! ## Finding a cluster -/

/-- The columns of a stem with their tails. -/
def Header.tails (header : Header) (stem : String) : List (Nat × String × String) :=
  header.titled.filterMap fun (column, title) =>
    (clusterTail? stem title).map fun tail => (column, title, tail)

/-- The cluster of a stem, if any column has it. -/
def Header.cluster? (header : Header) (stem : String) : Option Cluster :=
  match header.tails stem with
  | [] => none
  | found@(_ :: _) =>
    some
      { stem := stem
        columns := (found.zip (presentableTails (found.map fun entry => entry.2.2))).map
          fun ((column, title, _), tail) => ⟨title, tail, column⟩ }

/-- The cluster of a stem, of which there must be a column. -/
def Header.cluster (header : Header) (stem : String) : Except FormError Cluster :=
  match header.cluster? stem with
  | some cluster => .ok cluster
  | none => .error (.clusterMissing stem header.sheet)

theorem Header.cluster_eq_ok_iff {header : Header} {stem : String} {cluster : Cluster} :
    header.cluster stem = .ok cluster ↔ header.cluster? stem = some cluster := by
  unfold Header.cluster
  split <;> simp_all

/-! ## Reading a cluster -/

namespace Cluster

def languages (cluster : Cluster) : List Language := cluster.columns.map ClusterColumn.language

/-- The text of a row, one entry per column. -/
def localized (cluster : Cluster) (row : Row) : Localized :=
  Localized.ofList (cluster.columns.map fun column => (column.language, row.text column.column))

def hasColumn (cluster : Cluster) (column : Nat) : Bool :=
  cluster.columns.any fun other => other.column = column

end Cluster

end Questionnaire
