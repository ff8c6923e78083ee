import Questionnaire.Command.Configuration
import Questionnaire.Document.Survey
import Questionnaire.Document.Workbook
import Questionnaire.Storage

/-!
# Conversions

A conversion reads a form file, converts it, writes the survey and compares it with a reference.
The first thing that goes wrong ends it; what was written before stays.

Main definitions:

* `Conversion.configuration`: the configuration of a command line.
* `Conversion.convert`, `Conversion.run`: the conversion.
-/

namespace Questionnaire.Conversion

variable {m : Type → Type} [Monad m] [Storage m]

/-! ## Files -/

/-- The content of a file. -/
def content (path : String) : ExceptT ConversionError m ByteArray := do
  match ← Storage.read path with
  | some bytes => return bytes
  | none => throw (.unreadable path)

/-- The text of a file. -/
def text (path : String) : ExceptT ConversionError m String := do
  match String.fromUTF8? (← content path) with
  | some text => return text
  | none => throw (.unreadable path)

/-- Shows or writes a survey. -/
def put (output : Option String) (survey : String) : ExceptT ConversionError m Unit := do
  match output with
  | none => Storage.print survey
  | some path =>
    if path = Configuration.shown then Storage.print survey
    else if !(← Storage.write path survey) then throw (.unwritable path)

/-! ## Steps -/

/-- The configuration in a file, if one is named. -/
def configurationIn : Option String → ExceptT ConversionError m Configuration
  | none => return {}
  | some path => do
    match Configuration.ofJson? (← text path) with
    | some configuration => return configuration.seenFrom ((Path.parent? path).getD ".")
    | none => throw (.malformed path)

/-- The configuration of a command line. -/
def configuration (arguments : Command.Arguments) : ExceptT ConversionError m Configuration :=
  return (← configurationIn arguments.config).override arguments

/-- The workbook of a form file. Spreadsheets are not opened. -/
def workbook (file : FormFile) : InputKind → Except ConversionError Workbook
  | .spreadsheet => .error (.unopened file.path)
  | .document =>
    match (String.fromUTF8? file.content).bind Workbook.ofJson? with
    | some workbook => .ok workbook
    | none => .error (.malformed file.path)

/-- The survey of a form file. -/
def survey (configuration : Configuration) (options : Options) (file : FormFile) :
    Except ConversionError Survey := do
  let workbook ← workbook file (← configuration.kindOf file)
  match Survey.ofWorkbook workbook options with
  | .ok survey => .ok survey
  | .error cause => .error (.unconvertible file.name cause)

/-- A survey must be the document that is kept in a file, whatever its layout. -/
def compare (path survey : String) : ExceptT ConversionError m Unit := do
  match (Json.Tree.ofText? (← text path)).bind Json.Tree.value? with
  | none => throw (.malformed path)
  | some reference => if reference.render ≠ survey then throw .referenceDiffers

/-! ## The conversion -/

/-- Converts what a configuration says. -/
def convert (configuration : Configuration) : ExceptT ConversionError m Survey := do
  let path ← match configuration.input with
    | some path => pure path
    | none => throw .inputMissing
  let options ← liftExcept configuration.options
  let file : FormFile := ⟨path, ← content path⟩
  let survey ← liftExcept (survey configuration options file)
  let rendered := survey.document.render
  put configuration.output rendered
  if let some path := configuration.reference then compare path rendered
  return survey

/-- Carries out a command line. -/
def run (arguments : Command.Arguments) : ExceptT ConversionError m Unit := do
  let _ ← convert (← configuration arguments)

end Questionnaire.Conversion
