/-!
# Switches

The words of a command line that are no values name switches, in a long form behind two dashes or,
some of them, by one letter behind a dash.

Main definitions:

* `Setting`, `Flag`, `Switch`: the switches.
* `Switch.ofName?`, `Switch.ofLetter?`: the switches by their names.
-/

namespace Questionnaire.Command

/-- The switches that take a value. -/
inductive Setting where
  | config
  | reference
  | output
  | input
  | inputKind
  | languages
  deriving DecidableEq

/-- The switches that are on or off. -/
inductive Flag where
  | debug
  | verbose
  deriving DecidableEq

inductive Switch where
  | setting (setting : Setting)
  | flag (flag : Flag)
  | help
  | version
  deriving DecidableEq

namespace Switch

/-- The long names. -/
def names : List (String × Switch) :=
  [("config", setting .config), ("reference", setting .reference), ("out", setting .output),
   ("input", setting .input), ("input-type", setting .inputKind),
   ("languages", setting .languages), ("debug-relevance", flag .debug), ("verbose", flag .verbose),
   ("help", help), ("version", version)]

/-- The letters. -/
def letters : List (Char × Switch) :=
  [('c', setting .config), ('r', setting .reference), ('o', setting .output),
   ('i', setting .input), ('h', help), ('V', version)]

def ofName? (name : String) : Option Switch := names.lookup name

def ofLetter? (letter : Char) : Option Switch := letters.lookup letter

end Switch

end Questionnaire.Command
