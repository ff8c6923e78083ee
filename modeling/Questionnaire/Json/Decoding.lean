import Questionnaire.Json.Tree

/-!
# Decoding JSON

The values that a file must hold are read from its tree. A record is written as an object, of
which other keys than its own are ignored and its own may not be repeated, or as an array of its
fields in order.

Main definitions:

* `Tree.text?`, `Tree.bool?`, `Tree.word32?`, `Tree.nullable?`, `Tree.list?`: single values.
* `Tree.record?`: the fields of a record.
-/

namespace Questionnaire.Json.Tree

/-! ## Values -/

def text? : Tree → Option String
  | .string parts => string? parts
  | _ => none

def bool? : Tree → Option Bool
  | .bool value => some value
  | _ => none

/-- A number of 32 bits, written without sign, fraction and exponent. -/
def word32? : Tree → Option UInt32
  | .number ⟨false, whole, none, none⟩ =>
    if Text.number whole < UInt32.size then some (UInt32.ofNat (Text.number whole)) else none
  | _ => none

/-- A value or `null`. -/
def nullable? {α : Type} (decode : Tree → Option α) : Tree → Option (Option α)
  | .null => some none
  | tree => (decode tree).map some

def list? {α : Type} (decode : Tree → Option α) : Tree → Option (List α)
  | .array items => items.mapM decode
  | _ => none

/-! ## Records -/

/-- The fields whose keys are known, in the order in which they are written. Every key must be a
text. -/
def knownFields? (keys : List String) : List (List StringPart × Tree) →
    Option (List (String × Tree))
  | [] => some []
  | (parts, tree) :: fields => do
    let key ← string? parts
    let known ← knownFields? keys fields
    return if key ∈ keys then (key, tree) :: known else known

/-- The fields of a record by their keys. Fields of an object may be missing. -/
def record? (keys : List String) : Tree → Option (List (String × Tree))
  | .array items => if items.length = keys.length then some (keys.zip items) else none
  | .object fields => do
    let known ← knownFields? keys fields
    if (known.map Prod.fst).Nodup then some known else none
  | _ => none

/-- A field that must be there. -/
def required? {α : Type} (fields : List (String × Tree)) (key : String)
    (decode : Tree → Option α) : Option α := (fields.lookup key).bind decode

/-- A field that may be missing or `null`. -/
def optional? {α : Type} (fields : List (String × Tree)) (key : String)
    (decode : Tree → Option α) : Option (Option α) :=
  match fields.lookup key with
  | none => some none
  | some tree => nullable? decode tree

end Questionnaire.Json.Tree
