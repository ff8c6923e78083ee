import Questionnaire.Command.Switch

/-!
# Command line arguments

The words of a command line are taken one after the other. A value stands in the word of its
setting, behind `=` or behind the letter, or in the word that follows, if that does not begin with
a dash. A setting that is given again replaces what was given before.

A word that can not be taken ends the reading. Only a command line whose words can all be taken is
searched for settings without a value and for flags that are given twice.

Main definitions:

* `Arguments.ofWords`: the arguments of a command line.
* `Scan.take`: one word.
-/

namespace Questionnaire.Command

/-- What keeps a command line from being carried out. -/
inductive ArgumentError where
  /-- A word is neither a switch nor a value. -/
  | unknownWord
  /-- A setting has no value. -/
  | valueMissing
  /-- A flag is given twice. -/
  | flagRepeated
  /-- A switch without value is given one. -/
  | valueUnexpected
  /-- Help is asked for. -/
  | helpWanted
  /-- The version is asked for. -/
  | versionWanted
  deriving DecidableEq

structure Arguments where
  config : Option String := none
  reference : Option String := none
  output : Option String := none
  input : Option String := none
  inputKind : Option String := none
  languages : Option String := none
  debug : Bool := false
  verbose : Bool := false
  deriving DecidableEq

/-! ## What is given -/

inductive Given where
  | setting (setting : Setting) (value : Option String)
  | flag (flag : Flag) (count : Nat)
  deriving DecidableEq

namespace Given

/-- The value that is given to a setting. -/
def value? (s : Setting) : Given → Option (Option String)
  | setting t value => if t = s then some value else none
  | flag _ _ => none

def isFlag (f : Flag) : Given → Bool
  | setting _ _ => false
  | flag g _ => g = f

/-- The fault of what is given. -/
def fault? : Given → Option ArgumentError
  | setting _ none => some .valueMissing
  | setting _ (some _) => none
  | flag _ count => if 1 < count then some .flagRepeated else none

/-- Takes a setting back. What was given last moves to its place. -/
def withdraw (s : Setting) (given : List Given) : List Given :=
  match given.findIdx? fun item => (item.value? s).isSome, given.getLast? with
  | some i, some last => (given.set i last).dropLast
  | _, _ => given

/-- Gives a setting a value in the place of an earlier one. -/
def assign (s : Setting) (value : Option String) (given : List Given) : List Given :=
  withdraw s given ++ [setting s value]

/-- Gives a flag once more. -/
def raise (f : Flag) : List Given → List Given
  | [] => [flag f 1]
  | flag g count :: given =>
    if g = f then flag g (count + 1) :: given else flag g count :: raise f given
  | item :: given => item :: raise f given

end Given

/-! ## Words -/

/-- What the words so far give, and the setting whose value comes next. -/
structure Scan where
  given : List Given := []
  awaiting : Option Setting := none

namespace Scan

/-- A setting that still awaits its value stays without one. -/
def settle (r : Scan) : List Given :=
  match r.awaiting with
  | some s => Given.assign s none r.given
  | none => r.given

/-- Takes a switch, with the value in its word. -/
def switch (r : Scan) (value : Option String) : Switch → Except ArgumentError Scan
  | .setting s =>
    match value with
    | some _ => .ok ⟨Given.assign s value r.settle, none⟩
    | none => .ok ⟨r.settle, some s⟩
  | .flag f => if value.isSome then .error .valueUnexpected else .ok ⟨Given.raise f r.settle, none⟩
  | .help => .error (if value.isSome then .valueUnexpected else .helpWanted)
  | .version => .error (if value.isSome then .valueUnexpected else .versionWanted)

/-- Takes a long name and what follows it behind `=`. -/
def long (r : Scan) (word : List Char) : Except ArgumentError Scan :=
  let name := word.takeWhile (· != '=')
  match Switch.ofName? (String.ofList name) with
  | none => .error .unknownWord
  | some s =>
    r.switch (if name.length < word.length then some (String.ofList (word.drop (name.length + 1)))
      else none) s

/-- The value that follows a letter in its word. -/
def attached : List Char → Option String
  | [] => none
  | '=' :: value => some (String.ofList value)
  | value => some (String.ofList value)

/-- Takes a letter and what follows it in its word. Help and version need no look at the rest. -/
def short (r : Scan) (letter : Char) (rest : List Char) : Except ArgumentError Scan :=
  match Switch.ofLetter? letter with
  | none => .error .unknownWord
  | some (.setting s) => r.switch (attached rest) (.setting s)
  | some s => r.switch none s

/-- Takes a word that does not begin with a dash. -/
def value (r : Scan) (word : String) : Except ArgumentError Scan :=
  match r.awaiting with
  | some s => .ok ⟨Given.assign s (some word) r.given, none⟩
  | none => .error .unknownWord

/-- Takes a word other than `--`. -/
def take (r : Scan) (word : String) : Except ArgumentError Scan :=
  match word.toList with
  | '-' :: '-' :: name => r.long name
  | '-' :: letter :: rest => r.short letter rest
  | _ => r.value word

/-- Takes the words up to `--`, behind which no word may follow. -/
def takeAll (r : Scan) : List String → Except ArgumentError Scan
  | [] => .ok r
  | word :: words =>
    if word = "--" then if words = [] then .ok r else .error .unknownWord
    else
      match r.take word with
      | .ok next => next.takeAll words
      | .error e => .error e

/-- What is given once no word is left. A value that is still awaited is missed first. -/
def close (r : Scan) : Except ArgumentError (List Given) :=
  match r.awaiting, r.given.findSome? Given.fault? with
  | some _, _ => .error .valueMissing
  | none, some e => .error e
  | none, none => .ok r.given

end Scan

/-! ## Arguments -/

namespace Arguments

def ofGiven (given : List Given) : Arguments :=
  let value (s : Setting) : Option String := (given.findSome? (Given.value? s)).join
  { config := value .config
    reference := value .reference
    output := value .output
    input := value .input
    inputKind := value .inputKind
    languages := value .languages
    debug := given.any (Given.isFlag .debug)
    verbose := given.any (Given.isFlag .verbose) }

/-- The arguments of the words behind the name of the command. -/
def ofWords (words : List String) : Except ArgumentError Arguments := do
  return ofGiven (← (← Scan.takeAll {} words).close)

end Arguments

end Questionnaire.Command
