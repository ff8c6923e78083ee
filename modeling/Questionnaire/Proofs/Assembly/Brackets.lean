import Questionnaire.Assembly

/-!
# Entries of a forest

The entries that a forest is read from: a question for every question, and around what a group
holds its opening and an ending. Such entries leave no group open and have no stray, so they nest
into the forest wherever they stand.

Results:

* `Brackets.foldl_add`: the items are gathered behind those of the innermost open group.
* `Brackets.strays_append`: no ending among the entries is a stray.
* `ReadAs.assembleRows_eq`: rows with such entries are assembled into the forest.
-/

namespace Questionnaire

namespace Forest

theorem append_nil (items : Forest) : items.append .nil = items := by
  induction items with
  | nil => rfl
  | group g inner rest _ ih => rw [append, ih]
  | question q rest ih => rw [append, ih]

theorem append_assoc (items others more : Forest) :
    (items.append others).append more = items.append (others.append more) := by
  induction items with
  | nil => rfl
  | group g inner rest _ ih => rw [append, append, append, ih]
  | question q rest ih => rw [append, append, append, ih]

end Forest

/-- The entries of the items of a forest, one after the other. -/
inductive Brackets : List Entry → Forest → Prop where
  | nil : Brackets [] .nil
  | question (q : Question) {entries : List Entry} {rest : Forest} (h : Brackets entries rest) :
    Brackets (.question q :: entries) (.question q rest)
  | group (g : Group) (groupEnd : GroupEnd) {front back : List Entry} {inner rest : Forest}
    (hinner : Brackets front inner) (hrest : Brackets back rest) :
    Brackets (.opening g :: (front ++ .ending groupEnd :: back)) (.group g inner rest)

namespace Brackets

theorem foldl_add {entries : List Entry} {forest : Forest} (h : Brackets entries forest)
    (nesting : Nesting) : entries.foldl Nesting.add nesting =
      ⟨nesting.items.append forest, nesting.openGroups⟩ := by
  induction h generalizing nesting with
  | nil => rw [List.foldl_nil, Forest.append_nil]
  | question q _ ih =>
    rw [List.foldl_cons, ih]
    show (⟨(nesting.items.append (.question q .nil)).append _, _⟩ : Nesting) = _
    rw [Forest.append_assoc]
    rfl
  | group g groupEnd _ _ ihInner ihRest =>
    rw [List.foldl_cons, List.foldl_append, ihInner, List.foldl_cons, ihRest]
    -- the group was opened with nothing in it, and is closed with what its entries gathered
    show (⟨(nesting.items.append (.group g _ .nil)).append _, nesting.openGroups⟩ : Nesting) = _
    rw [Forest.append_assoc]
    rfl

theorem strays_append {entries : List Entry} {forest : Forest} (h : Brackets entries forest)
    (depth : Nat) (others : List Entry) :
    Nesting.strays depth (entries ++ others) = Nesting.strays depth others := by
  induction h generalizing depth others with
  | nil => rfl
  | question q _ ih => rw [List.cons_append, Nesting.strays, ih]
  | group g groupEnd _ _ ihInner ihRest =>
    rw [List.cons_append, Nesting.strays, List.append_assoc, ihInner, List.cons_append,
      Nesting.strays, ihRest]

theorem ofEntries_eq {entries : List Entry} {forest : Forest} (h : Brackets entries forest) :
    Nesting.ofEntries entries = ⟨forest, []⟩ := h.foldl_add .empty

theorem strays_eq_nil {entries : List Entry} {forest : Forest} (h : Brackets entries forest) :
    Nesting.strays 0 entries = [] := by
  have hstrays := h.strays_append 0 []
  rwa [List.append_nil] at hstrays

end Brackets

/-! ## Rows without faults -/

/-- The rows are read, without a warning, as the entries of the forest. -/
structure ReadAs (choices : Option ChoicesSheet) (options : Options) (rows : List SurveyRow)
    (forest : Forest) : Prop where
  brackets : Brackets ((readings choices options rows).map Reading.entry) forest
  warnings : ∀ reading ∈ readings choices options rows, reading.warnings = []

theorem readings_cons {choices : Option ChoicesSheet} {options : Options} {row : SurveyRow}
    {reading : Reading} (h : row.reading? choices options = some reading) (rows : List SurveyRow) :
    readings choices options (row :: rows) = reading :: readings choices options rows :=
  List.filterMap_cons_some h

theorem readings_append (choices : Option ChoicesSheet) (options : Options)
    (front back : List SurveyRow) : readings choices options (front ++ back) =
      readings choices options front ++ readings choices options back :=
  List.filterMap_append

namespace ReadAs

variable {choices : Option ChoicesSheet} {options : Options}

theorem nil : ReadAs choices options [] .nil := by
  have hreadings : readings choices options [] = [] := List.filterMap_nil
  refine ⟨?_, ?_⟩
  · rw [hreadings]
    exact .nil
  · rw [hreadings]
    exact fun reading hm => absurd hm List.not_mem_nil

theorem question {row : SurveyRow} {q : Question}
    (hrow : row.reading? choices options = some ⟨.question q, []⟩) {rows : List SurveyRow}
    {rest : Forest} (h : ReadAs choices options rows rest) :
    ReadAs choices options (row :: rows) (.question q rest) := by
  refine ⟨?_, ?_⟩
  · rw [readings_cons hrow, List.map_cons]
    exact .question q h.brackets
  · rw [readings_cons hrow]
    exact List.forall_mem_cons.2 ⟨rfl, h.warnings⟩

theorem group {first last : SurveyRow} {g : Group} {groupEnd : GroupEnd}
    (hfirst : first.reading? choices options = some ⟨.opening g, []⟩)
    (hlast : last.reading? choices options = some ⟨.ending groupEnd, []⟩)
    {front back : List SurveyRow} {inner rest : Forest}
    (hinner : ReadAs choices options front inner) (hrest : ReadAs choices options back rest) :
    ReadAs choices options (first :: (front ++ last :: back)) (.group g inner rest) := by
  have hreadings : readings choices options (first :: (front ++ last :: back)) =
      ⟨.opening g, []⟩ :: (readings choices options front ++
        ⟨.ending groupEnd, []⟩ :: readings choices options back) := by
    rw [readings_cons hfirst, readings_append, readings_cons hlast]
  refine ⟨?_, ?_⟩
  · rw [hreadings, List.map_cons, List.map_append, List.map_cons]
    exact .group g groupEnd hinner.brackets hrest.brackets
  · rw [hreadings]
    refine List.forall_mem_cons.2 ⟨rfl, List.forall_mem_append.2 ⟨hinner.warnings, ?_⟩⟩
    exact List.forall_mem_cons.2 ⟨rfl, hrest.warnings⟩

theorem assembleRows_eq {rows : List SurveyRow} {forest : Forest}
    (h : ReadAs choices options rows forest) :
    assembleRows choices options rows = ⟨forest, ⟨[], []⟩⟩ := by
  have hspecific : (readings choices options rows).flatMap Reading.warnings = [] :=
    List.flatMap_eq_nil_iff.2 h.warnings
  simp only [assembleRows, h.brackets.ofEntries_eq, h.brackets.strays_eq_nil, hspecific]
  rfl

end ReadAs

end Questionnaire
