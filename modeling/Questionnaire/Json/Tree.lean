import Questionnaire.Json.Lexeme
import Questionnaire.Json.Value
import Questionnaire.Number.Binary64

/-!
# Syntax trees of JSON

The lexemes of a document are put together by a machine with a stack of the arrays and objects
that are still open. A tree is what is written: keys may be repeated, and strings and numbers are
not looked into until their values are asked for.

Main definitions:

* `Tree`, `Tree.ofText?`: the trees and how they are read.
* `Tree.value?`: the document that a tree stands for.
-/

namespace Questionnaire.Json

inductive Tree where
  | null
  | bool (value : Bool)
  | number (numeral : Numeral)
  | string (parts : List StringPart)
  | array (items : List Tree)
  | object (fields : List (List StringPart × Tree))

/-! ## The machine -/

/-- An array or object that is open: the items in it so far, the last one first. -/
inductive Frame where
  | array (items : List Tree)
  /-- The value of the key comes next. -/
  | object (fields : List (List StringPart × Tree)) (key : List StringPart)

/-- What comes next. -/
inductive State where
  /-- A value. -/
  | value (stack : List Frame)
  /-- The first item of an array, or its end. -/
  | firstItem (stack : List Frame)
  /-- The first key of an object, or its end. -/
  | firstKey (stack : List Frame)
  /-- Another key of an object. -/
  | key (fields : List (List StringPart × Tree)) (stack : List Frame)
  /-- The colon behind a key. -/
  | colon (fields : List (List StringPart × Tree)) (key : List StringPart) (stack : List Frame)
  /-- What follows a value. -/
  | done (tree : Tree) (stack : List Frame)

/-- A value starts. -/
def startValue (stack : List Frame) : Lexeme → Option State
  | .null => some (.done .null stack)
  | .bool value => some (.done (.bool value) stack)
  | .number numeral => some (.done (.number numeral) stack)
  | .string parts => some (.done (.string parts) stack)
  | .openBracket => some (.firstItem stack)
  | .openBrace => some (.firstKey stack)
  | _ => none

/-- A value is followed by a comma or by the end of what it is in. -/
def endValue (tree : Tree) : List Frame → Lexeme → Option State
  | .array items :: stack, .comma => some (.value (.array (tree :: items) :: stack))
  | .array items :: stack, .closeBracket => some (.done (.array (tree :: items).reverse) stack)
  | .object fields key :: stack, .comma => some (.key ((key, tree) :: fields) stack)
  | .object fields key :: stack, .closeBrace =>
    some (.done (.object ((key, tree) :: fields).reverse) stack)
  | _, _ => none

/-- The state after a lexeme, if the lexeme may come next. -/
def State.next? : State → Lexeme → Option State
  | .value stack, lexeme => startValue stack lexeme
  | .firstItem stack, .closeBracket => some (.done (.array []) stack)
  | .firstItem stack, lexeme => startValue (.array [] :: stack) lexeme
  | .firstKey stack, .closeBrace => some (.done (.object []) stack)
  | .firstKey stack, .string parts => some (.colon [] parts stack)
  | .firstKey _, _ => none
  | .key fields stack, .string parts => some (.colon fields parts stack)
  | .key _ _, _ => none
  | .colon fields parts stack, .colon => some (.value (.object fields parts :: stack))
  | .colon _ _ _, _ => none
  | .done tree stack, lexeme => endValue tree stack lexeme

/-- The tree of a text, which must be that of one document. -/
def Tree.ofText? (text : String) : Option Tree := do
  match ← (← lexemes? text.toList).foldlM State.next? (.value []) with
  | .done tree [] => return tree
  | _ => none

/-! ## Strings -/

/-- The unit is the first of a surrogate pair. -/
def isHighSurrogate (n : Nat) : Bool := 0xD800 ≤ n && n < 0xDC00

/-- The unit is the second of a surrogate pair. -/
def isLowSurrogate (n : Nat) : Bool := 0xDC00 ≤ n && n < 0xE000

/-- The characters of a string. Surrogates must come in pairs. -/
def characters? : List StringPart → Option (List Char)
  | [] => some []
  | .char c :: parts => (characters? parts).map (c :: ·)
  | .unit high :: .unit low :: parts =>
    if isHighSurrogate high then
      if isLowSurrogate low then
        (characters? parts).map
          (Char.ofNat (0x10000 + (high - 0xD800) * 0x400 + (low - 0xDC00)) :: ·)
      else none
    else if isLowSurrogate high then none
    else (characters? (.unit low :: parts)).map (Char.ofNat high :: ·)
  | .unit n :: parts =>
    if isHighSurrogate n || isLowSurrogate n then none
    else (characters? parts).map (Char.ofNat n :: ·)

/-- The text of a string. -/
def string? (parts : List StringPart) : Option String := (characters? parts).map String.ofList

/-! ## Numbers -/

namespace Numeral

/-- The number that digits behind `n` make up as far as 64 bits hold it, and the digits that are
left. -/
def takeDigits (n : Nat) : List Char → Nat × List Char
  | [] => (n, [])
  | c :: cs =>
    if 10 * n + Text.digitValue c < UInt64.size then takeDigits (10 * n + Text.digitValue c) cs
    else (n, c :: cs)

/-- The power of ten that is written. -/
def writtenExponent (numeral : Numeral) : Int :=
  match numeral.exponent with
  | none => 0
  | some (true, digits) => -(Text.number digits : Int)
  | some (false, digits) => Text.number digits

/-- A number that 64 bits can hold. Its leading digits, scaled by their power of ten, must not
round to infinity. -/
def inRange (numeral : Numeral) : Bool :=
  let fractionDigits := numeral.fraction.getD []
  let whole := takeDigits 0 numeral.whole
  let leading := takeDigits whole.1 fractionDigits
  let scale : Int :=
    numeral.writtenExponent + whole.2.length + leading.2.length - fractionDigits.length
  if leading.1 = 0 ∨ scale < 0 then true
  else if 308 < scale then false
  else
    match Number.Binary64.mul (.ofDecimal false leading.1 0) (.ofDecimal false 1 scale) with
    | .finite _ _ _ => true
    | _ => false

/-- A number as it is written. -/
def text (numeral : Numeral) : String :=
  String.ofList
    ((if numeral.negative then ['-'] else []) ++ numeral.whole
      ++ (match numeral.fraction with
        | none => []
        | some digits => '.' :: digits)
      ++ match numeral.exponent with
        | none => []
        | some (negative, digits) => 'e' :: (if negative then ['-'] else []) ++ digits)

end Numeral

/-! ## Documents -/

/-- The depth to which documents may be nested. -/
def depthLimit : Nat := 127

/-- The last field of each key. -/
def lastFields {α : Type} : List (String × α) → List (String × α)
  | [] => []
  | field :: fields =>
    if fields.any fun other => other.1 = field.1 then lastFields fields
    else field :: lastFields fields

namespace Tree

mutual

/-- The document of a tree nested within the given depth. -/
def valueWithin? (depth : Nat) : Tree → Option Value
  | .null => some .null
  | .bool value => some (.bool value)
  | .number numeral => if numeral.inRange then some (.number numeral.text) else none
  | .string parts => (string? parts).map .string
  | .array items => if depth = 0 then none else (itemsWithin? (depth - 1) items).map .array
  | .object fields =>
    if depth = 0 then none
    else (fieldsWithin? (depth - 1) fields).map fun fields => .object (lastFields fields)

def itemsWithin? (depth : Nat) : List Tree → Option (List Value)
  | [] => some []
  | item :: items => do return (← valueWithin? depth item) :: (← itemsWithin? depth items)

def fieldsWithin? (depth : Nat) : List (List StringPart × Tree) → Option (List (String × Value))
  | [] => some []
  | (key, tree) :: fields => do
    return (← string? key, ← valueWithin? depth tree) :: (← fieldsWithin? depth fields)

end

/-- The document that a tree stands for. Of several fields with one key the last counts. -/
def value? (tree : Tree) : Option Value := valueWithin? depthLimit tree

end Tree

end Questionnaire.Json
