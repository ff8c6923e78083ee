import Questionnaire.QuestionType
import Questionnaire.Text.Words

/-!
# The type column

A cell of the `type` column names a question type, and for some types a list of choices or a file:
`select_one yes_no or_other`. Words are separated by spaces and tabs, however many.

Main definitions:

* `TypeSpec.parse`: reads a cell.
* `TypeSpec.text`: writes it with the key of the type.
-/

namespace Questionnaire

/-- What stands behind the type. -/
inductive TypeOptions where
  /-- A list of choices, to which a free answer may be added. -/
  | selection (list : String) (orOther : Bool)
  /-- A list of choices to put in order. -/
  | ranking (list : String)
  /-- A file of choices. -/
  | file (name : String)
  deriving DecidableEq

structure TypeSpec where
  type : QuestionType
  options : Option TypeOptions
  deriving DecidableEq

/-- Why a cell does not name a type. -/
inductive TypeError where
  | empty
  | unknownType (text : String)
  | listMissing (type : QuestionType)
  | fileMissing (type : QuestionType)
  deriving DecidableEq

def TypeError.message : TypeError → String
  | .empty => "The question type is empty"
  | .unknownType text => "Unknown question type \"" ++ text ++ "\""
  | .listMissing type => "The question type \"" ++ type.key ++ "\" requires a list name"
  | .fileMissing type => "The question type \"" ++ type.key ++ "\" requires a file name"

namespace TypeSpec

def unknown : TypeSpec := ⟨.unknown, none⟩

/-! ## Reading -/

/-- The text with a single space between its words. -/
def normalize (text : String) : String :=
  Text.joinWith " "
    ((Text.wordsBy (fun c => c = ' ' || c = '\t') text.toList).map String.ofList)

/-- The words behind a type end in the one that adds a free answer. -/
def endsInOrOther (words : List String) : Bool :=
  2 ≤ words.length && words.getLast? = some "or_other"

/-- The options of a type among the words behind it. -/
def readOptions (type : QuestionType) (words : List String) :
    Except TypeError (Option TypeOptions) :=
  match type with
  | .selectOne | .selectMultiple =>
    match words.head? with
    | some list => .ok (some (.selection list (endsInOrOther words)))
    | none => .error (.listMissing type)
  | .rank =>
    match words.head? with
    | some list => .ok (some (.ranking list))
    | none => .error (.listMissing type)
  | .selectOneFromFile | .selectMultipleFromFile =>
    match words.head? with
    | some name => .ok (some (.file name))
    | none => .error (.fileMissing type)
  | _ => .ok none

def parse (text : String) : Except TypeError TypeSpec :=
  let normal := normalize text
  if normal = "" then .error .empty
  else match QuestionType.leading? normal.toList with
    | none => .error (.unknownType normal)
    | some (type, rest) =>
      (readOptions type ((Text.wordsBy (· = ' ') rest).map String.ofList)).map fun options =>
        ⟨type, options⟩

/-! ## Writing -/

/-- The options as they are written behind the key, each with a space in front. -/
def optionsText : Option TypeOptions → String
  | none => ""
  | some (.selection list orOther) => " " ++ list ++ (if orOther then " or_other" else "")
  | some (.ranking list) => " " ++ list
  | some (.file name) => " " ++ name

def text (spec : TypeSpec) : String := spec.type.key ++ optionsText spec.options

/-- The list of choices that is named. -/
def list? (spec : TypeSpec) : Option String :=
  match spec.options with
  | some (.selection list _) | some (.ranking list) => some list
  | _ => none

end TypeSpec

end Questionnaire
