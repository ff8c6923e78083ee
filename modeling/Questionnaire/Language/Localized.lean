import Questionnaire.Language

/-!
# Localized texts

A text in several languages holds one entry per language, in the order in which the languages
came. An entry may lack its text.

Results:

* `get?_insert`: an insertion is what a later look-up finds, and touches no other language.
* `get?_ofList`: of several entries for a language, a collection keeps the first.
-/

namespace Questionnaire

structure Localized where
  entries : List (Language × Option String)
  deriving DecidableEq

namespace Localized

def empty : Localized := ⟨[]⟩

/-- The entry of a language, present even if its text is not. -/
def get? (text : Localized) (language : Language) : Option (Option String) :=
  text.entries.lookup language

/-- The text in a language. -/
def text? (text : Localized) (language : Language) : Option String :=
  (text.get? language).join

/-- The number of languages. -/
def size (text : Localized) : Nat := text.entries.length

/-- No language has a text. -/
def isVacant (text : Localized) : Bool := text.entries.all fun entry => entry.2.isNone

/-! ## Building -/

/-- Sets the entry of a language, in its place if there is one and at the end otherwise. -/
def insertEntry (language : Language) (value : Option String) :
    List (Language × Option String) → List (Language × Option String)
  | [] => [(language, value)]
  | entry :: entries =>
    if entry.1 = language then (language, value) :: entries
    else entry :: insertEntry language value entries

def insert (text : Localized) (language : Language) (value : Option String) : Localized :=
  ⟨insertEntry language value text.entries⟩

/-- The first entry of each language. -/
def firstEntries : List (Language × Option String) → List (Language × Option String)
  | [] => []
  | entry :: entries => entry :: (firstEntries entries).filter fun other => other.1 ≠ entry.1

def ofList (entries : List (Language × Option String)) : Localized := ⟨firstEntries entries⟩

/-- The same text in each of the languages. -/
def constant (languages : List Language) (text : String) : Localized :=
  ofList (languages.map fun language => (language, some text))

/-! ## Changing -/

/-- The entries of the given languages only. -/
def restrict (text : Localized) (languages : List Language) : Localized :=
  ⟨text.entries.filter fun entry => entry.1 ∈ languages⟩

/-- Changes every text that is present. -/
def mapTexts (text : Localized) (f : String → String) : Localized :=
  ⟨text.entries.map fun entry => (entry.1, entry.2.map f)⟩

/-! ## Look-up -/

theorem lookup_insertEntry (language other : Language) (value : Option String)
    (entries : List (Language × Option String)) :
    (insertEntry language value entries).lookup other =
      if other = language then some value else entries.lookup other := by
  induction entries with
  | nil =>
    by_cases h : other = language
    · simp [insertEntry, h]
    · simp [insertEntry, List.lookup_cons, h, beq_eq_false_iff_ne.2 h]
  | cons entry entries ih =>
    obtain ⟨key, held⟩ := entry
    by_cases hk : key = language
    · subst hk
      by_cases h : other = key
      · simp [insertEntry, h]
      · simp [insertEntry, List.lookup_cons, h, beq_eq_false_iff_ne.2 h]
    · by_cases h : other = key
      · subst h
        simp [insertEntry, hk]
      · simp [insertEntry, List.lookup_cons, hk, beq_eq_false_iff_ne.2 h, ih]

theorem get?_insert (text : Localized) (language other : Language) (value : Option String) :
    (text.insert language value).get? other =
      if other = language then some value else text.get? other :=
  lookup_insertEntry language other value text.entries

theorem lookup_filter_ne {key other : Language} (h : other ≠ key)
    (entries : List (Language × Option String)) :
    (entries.filter fun entry => entry.1 ≠ key).lookup other = entries.lookup other := by
  induction entries with
  | nil => rfl
  | cons entry entries ih =>
    obtain ⟨k, v⟩ := entry
    by_cases hk : k = key
    · subst hk
      simpa [List.lookup_cons, beq_eq_false_iff_ne.2 h] using ih
    · by_cases ho : other = k
      · subst ho; simp [hk]
      · simpa [List.lookup_cons, hk, beq_eq_false_iff_ne.2 ho] using ih

theorem get?_ofList (entries : List (Language × Option String)) (language : Language) :
    (ofList entries).get? language = entries.lookup language := by
  simp only [ofList, get?]
  induction entries with
  | nil => rfl
  | cons entry entries ih =>
    obtain ⟨key, value⟩ := entry
    by_cases h : language = key
    · subst h; simp [firstEntries]
    · simp only [firstEntries, List.lookup_cons, beq_eq_false_iff_ne.2 h]
      rw [lookup_filter_ne h, ih]

end Localized

end Questionnaire
