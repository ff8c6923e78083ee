import Questionnaire.Command.Arguments
import Questionnaire.Command.Error
import Questionnaire.Form.File
import Questionnaire.Json.Decoding
import Questionnaire.Options

/-!
# Configurations

A configuration says what is converted, how, and where the survey goes. It is read from a file,
whose paths start in the directory of that file, and arguments of the command line come first.

Main definitions:

* `Configuration.ofJson?`: the configuration of a text.
* `Configuration.seenFrom`, `Configuration.override`: paths and arguments.
* `Configuration.options`, `Configuration.inputKind`: what it says.
-/

namespace Questionnaire

open Json (Tree)

structure Configuration where
  input : Option String := none
  inputKind : Option String := none
  output : Option String := none
  reference : Option String := none
  languages : Option String := none
  lineBreaksAsMarkup : Option Bool := none
  calculationsAsBoolean : Option Bool := none
  debug : Option Bool := none
  deriving DecidableEq

/-- The kinds of form files. -/
inductive InputKind where
  | spreadsheet
  /-- A workbook as a JSON document. -/
  | document
  deriving DecidableEq

/-- The kind that a word names, whatever the case of its letters. -/
def InputKind.ofText? (text : String) : Option InputKind :=
  match Text.lower text with
  | "xlsx" | "excel" => some .spreadsheet
  | "json" => some .document
  | _ => none

/-- The selection that a word names. -/
def LanguageSelection.ofText? : String → Option LanguageSelection
  | "in-common" | "inCommon" => some .inCommon
  | "groups-and-questions" | "groupsAndQuestions" => some .groupsAndQuestions
  | "all" => some .all
  | _ => none

namespace Configuration

/-! ## Files -/

def keys : List String :=
  ["input", "inputType", "output", "reference", "relevanceLanguages", "labelLineBreaksAsHtml",
   "calculateIsPrefixAsBoolean", "debugRelevance"]

def ofTree? (tree : Tree) : Option Configuration := do
  let fields ← tree.record? keys
  return {
    input := ← Tree.optional? fields "input" Tree.text?
    inputKind := ← Tree.optional? fields "inputType" Tree.text?
    output := ← Tree.optional? fields "output" Tree.text?
    reference := ← Tree.optional? fields "reference" Tree.text?
    languages := ← Tree.optional? fields "relevanceLanguages" Tree.text?
    lineBreaksAsMarkup := ← Tree.optional? fields "labelLineBreaksAsHtml" Tree.bool?
    calculationsAsBoolean := ← Tree.optional? fields "calculateIsPrefixAsBoolean" Tree.bool?
    debug := ← Tree.optional? fields "debugRelevance" Tree.bool? }

def ofJson? (text : String) : Option Configuration := (Tree.ofText? text).bind ofTree?

/-- The output that is shown and not written to a file. -/
def shown : String := "stdout"

/-- A path of a configuration in a directory. -/
def resolve (directory path : String) : String :=
  if path = shown then path else Path.join directory path

/-- The configuration with its paths seen from a directory. -/
def seenFrom (directory : String) (configuration : Configuration) : Configuration :=
  { configuration with
    input := configuration.input.map (resolve directory)
    output := configuration.output.map (resolve directory)
    reference := configuration.reference.map (resolve directory) }

/-! ## Arguments -/

/-- The configuration, with what the arguments say in the place of what it says. -/
def override (configuration : Configuration) (arguments : Command.Arguments) : Configuration :=
  { configuration with
    input := arguments.input <|> configuration.input
    inputKind := arguments.inputKind <|> configuration.inputKind
    output := arguments.output <|> configuration.output
    reference := arguments.reference <|> configuration.reference
    languages := arguments.languages <|> configuration.languages
    debug := if arguments.debug then some true else configuration.debug }

/-! ## What it says -/

/-- The options, the usual ones where nothing else is said. -/
def options (configuration : Configuration) : Except ConversionError Options :=
  let usual : Options := {}
  let toOptions (languages : LanguageSelection) : Options :=
    { languages := languages
      lineBreaksAsMarkup := configuration.lineBreaksAsMarkup.getD usual.lineBreaksAsMarkup
      calculationsAsBoolean :=
        configuration.calculationsAsBoolean.getD usual.calculationsAsBoolean
      debug := configuration.debug.getD usual.debug }
  match configuration.languages with
  | none => .ok (toOptions usual.languages)
  | some text =>
    match LanguageSelection.ofText? text with
    | some languages => .ok (toOptions languages)
    | none => .error (.selectionUnknown text)

/-- The kind of the form file: the one that is named, and otherwise a document if the extension
says so. -/
def kindOf (configuration : Configuration) (file : FormFile) : Except ConversionError InputKind :=
  match configuration.inputKind with
  | some text =>
    match InputKind.ofText? text with
    | some kind => .ok kind
    | none => .error (.inputKindUnknown text)
  | none => .ok (if file.extension? = some "json" then .document else .spreadsheet)

end Configuration

end Questionnaire
