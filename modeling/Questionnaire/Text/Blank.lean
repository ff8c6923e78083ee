import Questionnaire.Text.CharTable

/-!
# White space

The white space of a text is that of the Unicode property `White_Space`. It surrounds the text of
a cell without being part of it, so every reader of a cell trims it first.

Results:

* `trimList_eq_nil_iff`: a text is trimmed to nothing exactly when all of it is blank.
* `isBlank_of_isWhitespace`: every character of the basic class is blank here too.
-/

namespace Questionnaire.Text

/-- The characters with the property `White_Space`. -/
def blankTable : CharTable :=
  [(0x9, 0xD), (0x20, 0x20), (0x85, 0x85), (0xA0, 0xA0), (0x1680, 0x1680), (0x2000, 0x200A),
   (0x2028, 0x2029), (0x202F, 0x202F), (0x205F, 0x205F), (0x3000, 0x3000)]

def isBlank (c : Char) : Bool := blankTable.contains c

theorem isBlank_of_isWhitespace {c : Char} (h : c.isWhitespace = true) : isBlank c = true := by
  simp only [Char.isWhitespace, Bool.or_eq_true, decide_eq_true_eq] at h
  rcases h with ((h | h) | h) | h <;> subst h <;> decide

/-! ## Trimming -/

/-- Drops the blanks at the end. -/
def trimEnd : List Char → List Char
  | [] => []
  | c :: cs =>
    match trimEnd cs with
    | [] => if isBlank c then [] else [c]
    | d :: ds => c :: d :: ds

/-- Drops the blanks at both ends. -/
def trimList (cs : List Char) : List Char := trimEnd (cs.dropWhile isBlank)

def trim (s : String) : String := String.ofList (trimList s.toList)

theorem trimEnd_eq_nil_iff {cs : List Char} : trimEnd cs = [] ↔ ∀ c ∈ cs, isBlank c = true := by
  induction cs with
  | nil => simp [trimEnd]
  | cons c cs ih =>
    simp only [trimEnd, List.mem_cons, forall_eq_or_imp]
    rw [← ih]
    cases trimEnd cs <;> simp

theorem trimList_eq_nil_iff {cs : List Char} : trimList cs = [] ↔ ∀ c ∈ cs, isBlank c = true := by
  rw [trimList, trimEnd_eq_nil_iff]
  induction cs with
  | nil => simp
  | cons c cs ih =>
    by_cases h : isBlank c = true
    · simp [h, ih]
    · simp [h]

@[simp] theorem toList_trim (s : String) : (trim s).toList = trimList s.toList := by
  simp [trim]

/-- The trimmed text, absent when nothing is left. -/
def trimmed? (s : String) : Option String :=
  match trimList s.toList with
  | [] => none
  | c :: cs => some (String.ofList (c :: cs))

theorem trimmed?_eq_some_iff {s t : String} : trimmed? s = some t ↔ trim s = t ∧ t ≠ "" := by
  unfold trimmed? trim
  cases h : trimList s.toList with
  | nil => simp
  | cons c cs =>
    simp only [Option.some.injEq]
    constructor
    · rintro rfl
      refine ⟨rfl, fun he => ?_⟩
      have := congrArg String.toList he
      simp at this
    · exact fun h => h.1

end Questionnaire.Text
