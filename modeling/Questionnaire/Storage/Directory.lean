import Questionnaire.Storage
import Questionnaire.Storage.Path
import Questionnaire.Text.Search

/-!
# Directories

A directory is a list of text files. The directories in it are those on the way to a file. A path
is followed part by part, and leads nowhere if it passes through anything but a directory, leaves
the directory that it starts in, or has a name that no file can have.

Main definitions:

* `Directory.locate?`: where a path leads.
* `Directory.read?`, `Directory.write?`: files by their paths.
* `Directory.changesSince`: the files that are new or hold another text than before.

Results:

* `lookup_put_self`, `lookup_put_of_ne`: what a file holds after one was put into the directory.
-/

namespace Questionnaire

/-- The names on the way to a file. -/
abbrev Location := List String

structure Directory where
  files : List (Location × String)
  deriving DecidableEq

namespace Directory

/-! ## Files -/

/-- Puts a file in the place of the one that is there, or behind all others. -/
def putFile (place : Location) (text : String) :
    List (Location × String) → List (Location × String)
  | [] => [(place, text)]
  | file :: files =>
    if file.1 = place then (place, text) :: files else file :: putFile place text files

theorem lookup_put_self (place : Location) (text : String) (files : List (Location × String)) :
    (putFile place text files).lookup place = some text := by
  induction files with
  | nil => simp [putFile]
  | cons file files ih =>
    obtain ⟨key, held⟩ := file
    by_cases h : key = place
    · simp [putFile, h]
    · have hne : (place == key) = false := by simpa using Ne.symm h
      simp [putFile, h, List.lookup_cons, hne, ih]

theorem lookup_put_of_ne {place other : Location} (h : other ≠ place) (text : String)
    (files : List (Location × String)) :
    (putFile place text files).lookup other = files.lookup other := by
  have hne : (other == place) = false := by simpa using h
  induction files with
  | nil => simp [putFile, List.lookup_cons, hne]
  | cons file files ih =>
    obtain ⟨key, held⟩ := file
    by_cases hk : key = place
    · subst hk; simp [putFile, List.lookup_cons, hne]
    · simp [putFile, hk, List.lookup_cons, ih]

/-- The place is the directory itself or on the way to a file. -/
def isDirectory (directory : Directory) (place : Location) : Bool :=
  place.isEmpty || directory.files.any fun file => place.isPrefixOf file.1 && place != file.1

/-! ## Paths -/

/-- The most bytes of a name. -/
def nameLimit : Nat := 255

/-- The most bytes of a path. -/
def pathLimit : Nat := 4095

def isName (part : List Char) : Bool :=
  (String.ofList part).utf8ByteSize ≤ nameLimit && !part.contains '\x00'

/-- Where the next part of a path leads from a place. -/
def follow? (directory : Directory) (place : Location) (part : List Char) : Option Location :=
  if directory.isDirectory place = false then none
  else if part = [] ∨ part = ['.'] then some place
  else if part = ['.', '.'] then if place = [] then none else some place.dropLast
  else if isName part then some (place ++ [String.ofList part])
  else none

/-- Where a path leads. There may be no file yet. -/
def locate? (directory : Directory) (path : String) : Option Location :=
  if Path.isAbsolute path ∨ pathLimit < path.utf8ByteSize then none
  else (Path.parts path.toList).foldlM directory.follow? []

def read? (directory : Directory) (path : String) : Option String :=
  (directory.locate? path).bind fun place => directory.files.lookup place

/-- The directory after a text was written to a file, if it can be. -/
def write? (directory : Directory) (path text : String) : Option Directory :=
  match directory.locate? path with
  | none => none
  | some place =>
    if directory.isDirectory place then none else some ⟨putFile place text directory.files⟩

/-! ## Contents -/

/-- Where a path leads through directories that are made on the way. -/
def place (path : String) : Location :=
  (Path.parts path.toList).foldl (fun place part =>
    if part = [] ∨ part = ['.'] then place
    else if part = ['.', '.'] then place.dropLast
    else place ++ [String.ofList part]) []

/-- The directory of some files, given by path and text. -/
def ofFiles (files : List (String × String)) : Directory :=
  ⟨files.foldl (fun placed file => putFile (place file.1) file.2 placed) []⟩

/-- The files that are new or hold another text than before, by path and text. -/
def changesSince (before now : Directory) : List (String × String) :=
  (now.files.filter fun file => file ∉ before.files).map fun file =>
    (Text.joinWith "/" file.1, file.2)

end Directory

/-! ## Conversions in a directory -/

/-- What is shown leaves no trace in the directory. -/
instance : Storage (StateM Directory) where
  read path := fun directory => ((directory.read? path).map String.toUTF8, directory)
  write path text := fun directory =>
    match directory.write? path text with
    | none => (false, directory)
    | some written => (true, written)
  print _ := pure ()

end Questionnaire
