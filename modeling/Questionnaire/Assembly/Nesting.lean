import Questionnaire.Assembly.Reading

/-!
# Nesting

The entries of a survey nest into a forest. While they are read, some groups are open: the items
of the innermost one are being gathered, and every open group waits with the items in front of it
on its level. An ending without an open group is a stray; groups that are never ended are closed
after the last entry, the innermost first.

Results:

* `Nesting.events_add`: an entry adds its own event, and a stray adds none.
-/

namespace Questionnaire

/-- The state between two entries: the items gathered on the innermost level, and the open groups
from the innermost out, each with the items in front of it. -/
structure Nesting where
  items : Forest
  openGroups : List (Group × Forest)

namespace Nesting

def empty : Nesting := ⟨.nil, []⟩

/-- Opens a group behind the items of the innermost level. -/
def openGroup (nesting : Nesting) (group : Group) : Nesting :=
  ⟨.nil, (group, nesting.items) :: nesting.openGroups⟩

def addQuestion (nesting : Nesting) (question : Question) : Nesting :=
  { nesting with items := nesting.items.append (.question question .nil) }

/-- Closes the innermost group, if one is open. -/
def closeGroup? (nesting : Nesting) : Option Nesting :=
  match nesting.openGroups with
  | [] => none
  | (group, before) :: outer => some ⟨before.append (.group group nesting.items .nil), outer⟩

/-- The nesting after an entry. A stray ending changes nothing. -/
def add (nesting : Nesting) : Entry → Nesting
  | .opening group => nesting.openGroup group
  | .question question => nesting.addQuestion question
  | .ending _ => nesting.closeGroup?.getD nesting

def ofEntries (entries : List Entry) : Nesting := entries.foldl add empty

/-- The items, put into the open groups one after the other. -/
def closeAll : Forest → List (Group × Forest) → Forest
  | items, [] => items
  | items, (group, before) :: outer => closeAll (before.append (.group group items .nil)) outer

/-- All items, every open group closed at the end. -/
def forest (nesting : Nesting) : Forest := closeAll nesting.items nesting.openGroups

/-- The groups that are open, the innermost first. -/
def unended (nesting : Nesting) : List Group := nesting.openGroups.map Prod.fst

/-! ## Strays -/

/-- The endings that meet no open group, when `depth` groups are open. -/
def strays : Nat → List Entry → List GroupEnd
  | _, [] => []
  | depth, .opening _ :: entries => strays (depth + 1) entries
  | depth, .question _ :: entries => strays depth entries
  | 0, .ending groupEnd :: entries => groupEnd :: strays 0 entries
  | depth + 1, .ending _ :: entries => strays depth entries

/-! ## Events -/

/-- The events so far: those in front of the open groups from the outside in, each with its
opening, then those of the innermost level. -/
def events (nesting : Nesting) : List Event :=
  nesting.openGroups.foldr
      (fun (group, before) events => events ++ before.events ++ [.opening group]) []
    ++ nesting.items.events

/-- The event of an entry, when `depth` groups are open. -/
def eventOf (depth : Nat) : Entry → List Event
  | .opening group => [.opening group]
  | .question question => [.question question]
  | .ending _ => if depth = 0 then [] else [.closing]

theorem events_add (nesting : Nesting) (entry : Entry) :
    (nesting.add entry).events = nesting.events ++ eventOf nesting.openGroups.length entry := by
  obtain ⟨items, openGroups⟩ := nesting
  cases entry with
  | opening group => simp [add, openGroup, events, eventOf, Forest.events]
  | question question => simp [add, addQuestion, events, eventOf, Forest.events]
  | ending groupEnd =>
    cases openGroups with
    | nil => simp [add, closeGroup?, eventOf]
    | cons first outer => simp [add, closeGroup?, events, eventOf, Forest.events]

end Nesting

end Questionnaire
