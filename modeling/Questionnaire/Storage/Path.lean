/-!
# Paths

A path is a text whose parts are separated by `/`. A path that begins with `/` is absolute. Empty
parts and parts `.` behind the first one say nothing; the part `..` leads to the directory above.

Main definitions:

* `fileName?`, `extension?`, `stem?`: the last part of a path, and its text behind and in front of
  the last point.
* `parent?`, `join`: the directory of a path, and a path in a directory.

Results:

* `joinParts_parts`: a path is its parts with separators between them.
-/

namespace Questionnaire.Path

/-! ## Parts -/

/-- The parts of a path, between its separators. -/
def parts : List Char → List (List Char)
  | [] => [[]]
  | c :: cs =>
    if c = '/' then [] :: parts cs
    else
      match parts cs with
      | [] => [[c]]
      | part :: rest => (c :: part) :: rest

/-- The path of some parts. -/
def joinParts : List (List Char) → List Char
  | [] => []
  | [part] => part
  | part :: next :: rest => part ++ '/' :: joinParts (next :: rest)

theorem parts_ne_nil (cs : List Char) : parts cs ≠ [] := by
  fun_induction parts cs <;> simp

theorem joinParts_parts (cs : List Char) : joinParts (parts cs) = cs := by
  fun_induction parts cs with
  | case1 => rfl
  | case2 cs ih =>
    cases h : parts cs with
    | nil => exact absurd h (parts_ne_nil cs)
    | cons part rest => rw [h] at ih; simp [joinParts, ih]
  | case3 c cs _ h => exact absurd h (parts_ne_nil cs)
  | case4 c cs _ part rest h ih =>
    rw [h] at ih
    cases rest <;> simp_all [joinParts]

/-- Drops the parts that say nothing from the end of a path, whose parts are given from the last
to the first. The first part of a path says where it starts. -/
def dropIdle : List (List Char) → List (List Char)
  | part :: next :: rest =>
    if part = [] ∨ part = ['.'] then dropIdle (next :: rest) else part :: next :: rest
  | path => path

/-- The parts of a path from the last that says something to the first. -/
def meaningful (path : String) : List (List Char) := dropIdle (parts path.toList).reverse

/-! ## Names -/

/-- The name at the end of a path, if it ends in one. -/
def fileName? (path : String) : Option String :=
  match meaningful path with
  | [] => none
  | part :: _ =>
    if part = [] ∨ part = ['.'] ∨ part = ['.', '.'] then none else some (String.ofList part)

/-- The text in front of the last point and the text behind it. A point at the start of a name
does not count. -/
def splitName (name : List Char) : List Char × Option (List Char) :=
  let behind := (name.reverse.takeWhile (· != '.')).reverse
  let front := name.take (name.length - behind.length - 1)
  if front = [] then (name, none) else (front, some behind)

/-- The text of the name behind its last point. -/
def extension? (path : String) : Option String :=
  (fileName? path).bind fun name => (splitName name.toList).2.map String.ofList

/-- The text of the name in front of its last point. -/
def stem? (path : String) : Option String :=
  (fileName? path).map fun name => String.ofList (splitName name.toList).1

/-! ## Directories -/

def isAbsolute (path : String) : Bool := path.toList.head? = some '/'

/-- The directory that holds what a path leads to, if there is one. -/
def parent? (path : String) : Option String :=
  match meaningful path with
  | [] | [[]] => none
  | _ :: rest =>
    match dropIdle rest with
    | [[]] => some "/"
    | parts => some (String.ofList (joinParts parts.reverse))

/-- A path seen from a directory. -/
def join (directory path : String) : String :=
  if isAbsolute path then path
  else if directory = "" ∨ directory.toList.getLast? = some '/' then directory ++ path
  else directory ++ "/" ++ path

end Questionnaire.Path
