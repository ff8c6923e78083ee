import Questionnaire.Command.Conversion

/-!
# The command line

Converts a form file as the arguments say. Faults go to the error output.
-/

open Questionnaire

instance : Storage IO where
  read path := try return some (← IO.FS.readBinFile path) catch _ => return none
  write path text := do
    try
      IO.FS.writeFile path text
      return true
    catch _ => return false
  print text := IO.println text

namespace Questionnaire.Command

def usage : String :=
  "Converts XLSForm spreadsheets into survey documents.

OPTIONS:
    -c, --config <FILE>           A JSON file with the conversion settings
    -r, --reference <FILE>        A survey document that the survey is checked against
    -o, --out <FILE>              Where the survey is written, or 'stdout'
    -i, --input <FILE>            The form to convert
        --input-type <KIND>       xlsx or json, by default as the file extension says
        --languages <SELECTION>   in-common, groups-and-questions or all
        --debug-relevance         Logs the steps of the relevance expressions
        --verbose                 Logs more
    -h, --help                    Prints help
    -V, --version                 Prints the version"

def version : String := "questionnaire 0.1.0"

def ArgumentError.message : ArgumentError → String
  | .unknownWord => "error: Found an argument which wasn't expected"
  | .valueMissing => "error: An argument requires a value but none was supplied"
  | .flagRepeated =>
    "error: An argument was provided more than once, but cannot be used multiple times"
  | .valueUnexpected => "error: A value was provided for an argument that takes none"
  | .helpWanted => usage
  | .versionWanted => version

/-- Shows what keeps the command line from being carried out, and gives the exit code. -/
def reject (error : ArgumentError) : IO UInt32 := do
  if error = .helpWanted ∨ error = .versionWanted then
    IO.println error.message
    return 0
  IO.eprintln error.message
  return 2

end Questionnaire.Command

def main (words : List String) : IO UInt32 := do
  match Command.Arguments.ofWords words with
  | .error error => Command.reject error
  | .ok arguments =>
    match ← (Conversion.run arguments : ExceptT ConversionError IO Unit) with
    | .ok () => return 0
    | .error error =>
      IO.eprintln ("An error occured: " ++ error.message)
      return 1
