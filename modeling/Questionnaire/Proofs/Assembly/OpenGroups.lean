import Questionnaire.Assembly

/-!
# Open groups over a run of entries

How many groups are open depends only on the brackets read so far: an opening adds one, an ending
takes one away while there is one. Over a run of entries the walk of the nesting grows by the
events of the entries, and closing what is left adds one closing per open group.

Results:

* `depth_foldl_add`: the number of open groups behind a run.
* `events_foldl_add`: the events behind a run.
* `events_forest`: the events once every open group is closed.
-/

namespace Questionnaire.Nesting

/-- The number of open groups. -/
def depth (nesting : Nesting) : Nat := nesting.openGroups.length

/-- The number of open groups behind an entry, when `depth` are open in front of it. -/
def depthBehind (depth : Nat) : Entry → Nat
  | .opening _ => depth + 1
  | .question _ => depth
  | .ending _ => depth - 1

/-- The events of a run of entries, when `depth` groups are open in front of it. -/
def runEvents : Nat → List Entry → List Event
  | _, [] => []
  | depth, entry :: entries => eventOf depth entry ++ runEvents (depthBehind depth entry) entries

theorem depth_add (nesting : Nesting) (entry : Entry) :
    (nesting.add entry).depth = depthBehind nesting.depth entry := by
  obtain ⟨items, openGroups⟩ := nesting
  cases entry with
  | opening group => rfl
  | question question => rfl
  | ending groupEnd => cases openGroups <;> rfl

theorem depth_foldl_add (nesting : Nesting) (entries : List Entry) :
    (entries.foldl add nesting).depth = entries.foldl depthBehind nesting.depth := by
  induction entries generalizing nesting with
  | nil => rfl
  | cons entry entries ih => rw [List.foldl_cons, List.foldl_cons, ih, depth_add]

theorem events_foldl_add (nesting : Nesting) (entries : List Entry) :
    (entries.foldl add nesting).events = nesting.events ++ runEvents nesting.depth entries := by
  induction entries generalizing nesting with
  | nil => simp [runEvents]
  | cons entry entries ih =>
    rw [List.foldl_cons, ih, events_add, depth_add, runEvents, List.append_assoc]
    rfl

/-! ## Closing what is left -/

/-- The innermost group is closed first; its closing comes in front of those of the outer ones. -/
theorem events_closeAll (items : Forest) (outer : List (Group × Forest)) :
    (closeAll items outer).events =
      (Nesting.mk items outer).events ++ List.replicate outer.length .closing := by
  induction outer generalizing items with
  | nil => simp [closeAll, events]
  | cons first outer ih =>
    obtain ⟨group, before⟩ := first
    have hclose : (Nesting.mk (before.append (.group group items .nil)) outer).events =
        (Nesting.mk items ((group, before) :: outer)).events ++ [.closing] := by
      simp [events, Forest.events]
    rw [closeAll, ih, hclose, List.length_cons, List.replicate_succ, List.append_assoc]
    rfl

theorem events_forest (nesting : Nesting) :
    nesting.forest.events = nesting.events ++ List.replicate nesting.depth .closing :=
  events_closeAll nesting.items nesting.openGroups

theorem events_forest_ofEntries (entries : List Entry) :
    (ofEntries entries).forest.events =
      runEvents 0 entries ++ List.replicate (entries.foldl depthBehind 0) .closing := by
  rw [events_forest, ofEntries, events_foldl_add, depth_foldl_add]
  rfl

end Questionnaire.Nesting
