import Questionnaire.Text.Digits
import Questionnaire.Text.Search

/-!
# Documents

A document is a JSON value. It is written with two spaces of indentation, the keys of an object in
ascending order, and every character raw that need not be escaped.

Main definitions:

* `Value`: documents.
* `Value.render`: the text of a document.
-/

namespace Questionnaire.Json

inductive Value where
  | null
  | bool (value : Bool)
  /-- A number as it is written. -/
  | number (text : String)
  | string (text : String)
  | array (items : List Value)
  | object (fields : List (String × Value))

namespace Value

/-- A text that may be absent. -/
def ofText? (text : Option String) : Value :=
  match text with
  | some text => .string text
  | none => .null

/-! ## Strings -/

/-- The characters of a string between its quotes. Quotes, backslashes and control characters are
escaped, the common ones of these by a letter. -/
def escape (c : Char) : List Char :=
  if c = '\x22' then ['\\', '\x22']
  else if c = '\\' then ['\\', '\\']
  else if c = '\x08' then ['\\', 'b']
  else if c = '\t' then ['\\', 't']
  else if c = '\n' then ['\\', 'n']
  else if c = '\x0c' then ['\\', 'f']
  else if c = '\r' then ['\\', 'r']
  else if c.toNat < 32 then
    ['\\', 'u', '0', '0', Text.hexDigit (c.toNat / 16), Text.hexDigit (c.toNat % 16)]
  else [c]

def quoted (text : String) : String :=
  "\"" ++ String.ofList (text.toList.flatMap escape) ++ "\""

/-! ## Layout -/

/-- A line break and the indentation of the next line. -/
def newLine (depth : Nat) : String := "\n" ++ String.ofList (List.replicate (2 * depth) ' ')

/-- Parts between two marks, each on a line of its own. -/
def enclose (opening closing : String) (depth : Nat) (parts : List String) : String :=
  if parts.isEmpty then opening ++ closing
  else
    opening ++ newLine (depth + 1) ++ Text.joinWith ("," ++ newLine (depth + 1)) parts
      ++ newLine depth ++ closing

/-- The texts of fields, in ascending order of their keys. -/
def sortedFields (fields : List (String × String)) : List String :=
  (fields.mergeSort fun a b => a.1 ≤ b.1).map fun field => quoted field.1 ++ ": " ++ field.2

mutual

/-- The text of a value inside so many others. -/
def renderAt (depth : Nat) : Value → String
  | .null => "null"
  | .bool true => "true"
  | .bool false => "false"
  | .number text => text
  | .string text => quoted text
  | .array items => enclose "[" "]" depth (renderItems (depth + 1) items)
  | .object fields =>
    enclose "\x7b" "\x7d" depth (sortedFields (renderFields (depth + 1) fields))

def renderItems (depth : Nat) : List Value → List String
  | [] => []
  | item :: items => renderAt depth item :: renderItems depth items

def renderFields (depth : Nat) : List (String × Value) → List (String × String)
  | [] => []
  | (key, value) :: fields => (key, renderAt depth value) :: renderFields depth fields

end

/-- The text of a document. -/
def render (value : Value) : String := renderAt 0 value

end Value

end Questionnaire.Json
