import Mathlib.Data.List.Forall2
import Mathlib.Logic.Function.Basic
import Questionnaire.Proofs.Language.FirstOccurrences

/-!
# Localized texts as maps

A localized text is a map from languages to texts that keeps the languages in the order in which
they came. It may be collected from entries, of which the first of each language counts even if it
has no text, and then be changed in place: there the last text of a language counts.

Main definitions:

* `LanguageMap`: languages in order, and the text of each.
* `Localized.Change`, `Localized.change`, `LanguageMap.change`: what may be done to a text, and to a
  map.
* `Localized.Shows`: no look-up tells a text from a map.

Results:

* `Localized.change_toLocalized`: a change of a text is the same change of its map.
* `Localized.shows_scanl`: from the collection on and after every change, a text shows its map.
-/

namespace Questionnaire

/-! ## Maps -/

/-- Languages in order, each once, and their texts. What `text` says of other languages does not
count. -/
structure LanguageMap where
  languages : List Language
  nodup : languages.Nodup
  text : Language → Option String

namespace LanguageMap

/-- The languages in the order of their first entries, each with the text of its first entry. -/
def collect (entries : List (Language × Option String)) : LanguageMap where
  languages := (entries.map Prod.fst).eraseDups
  nodup := nodup_eraseDups _
  text language := (entries.lookup language).join

/-- Sets the text of a language, which comes last if it is new. -/
def insert (map : LanguageMap) (language : Language) (value : Option String) : LanguageMap where
  languages := if language ∈ map.languages then map.languages else map.languages ++ [language]
  nodup := by
    split
    · exact map.nodup
    · rename_i hnew
      exact map.nodup.append (List.nodup_singleton _) (List.disjoint_singleton.2 hnew)
  text := Function.update map.text language value

/-- Keeps the given languages only. -/
def restrict (map : LanguageMap) (kept : List Language) : LanguageMap where
  languages := map.languages.filter fun language => language ∈ kept
  nodup := map.nodup.filter _
  text := map.text

/-- Changes the texts that are present. -/
def mapTexts (map : LanguageMap) (f : String → String) : LanguageMap where
  languages := map.languages
  nodup := map.nodup
  text language := (map.text language).map f

/-- What stands for a language, if it is one of the map. -/
def get? (map : LanguageMap) (language : Language) : Option (Option String) :=
  if language ∈ map.languages then some (map.text language) else none

/-- The text of a language, if it is one of the map and has a text. -/
def text? (map : LanguageMap) (language : Language) : Option String :=
  if language ∈ map.languages then map.text language else none

/-- The localized text with the languages of the map in order. -/
def toLocalized (map : LanguageMap) : Localized :=
  ⟨map.languages.map fun language => (language, map.text language)⟩

end LanguageMap

/-! ## Changes -/

/-- What may be done to a localized text once it is collected. -/
inductive Localized.Change where
  | insert (language : Language) (value : Option String)
  | restrict (languages : List Language)
  | mapTexts (f : String → String)

def Localized.change (text : Localized) : Change → Localized
  | .insert language value => text.insert language value
  | .restrict languages => text.restrict languages
  | .mapTexts f => text.mapTexts f

def LanguageMap.change (map : LanguageMap) : Localized.Change → LanguageMap
  | .insert language value => map.insert language value
  | .restrict languages => map.restrict languages
  | .mapTexts f => map.mapTexts f

namespace Localized

/-- The text has the languages of the map in the same order, and no look-up tells the two apart. -/
structure Shows (text : Localized) (map : LanguageMap) : Prop where
  languages : text.languages = map.languages
  nodup : text.languages.Nodup
  get? : ∀ language, text.get? language = map.get? language
  text? : ∀ language, text.text? language = map.text? language
  size : text.size = map.languages.length
  isVacant : text.isVacant = true ↔ ∀ language ∈ map.languages, map.text language = none

/-! ## One change -/

variable {map : LanguageMap}

/-- Each language has the entry that comes first in the list. -/
theorem ofList_eq_toLocalized (entries : List (Language × Option String)) :
    ofList entries = (LanguageMap.collect entries).toLocalized := by
  refine congrArg Localized.mk ?_
  show firstEntries entries = (entries.map Prod.fst).eraseDups.map fun language =>
    (language, (entries.lookup language).join)
  induction entries with
  | nil => rfl
  | cons entry entries ih =>
    obtain ⟨first, value⟩ := entry
    have hrest : ((entries.map Prod.fst).filter fun language => !language == first).eraseDups =
        (entries.map Prod.fst).eraseDups.filter fun language => !language == first :=
      eraseDups_filter _ _
    rw [List.map_cons, List.eraseDups_cons, hrest, List.map_cons, firstEntries, ih,
      List.lookup_cons_self, List.filter_map]
    congr 1
    have hfilter : ((entries.map Prod.fst).eraseDups.filter
          ((fun other => decide (other.1 ≠ first)) ∘ fun language =>
            (language, (entries.lookup language).join))) =
        (entries.map Prod.fst).eraseDups.filter fun language => !language == first :=
      List.filter_congr fun language _ => by simp [beq_eq_decide]
    rw [hfilter]
    refine List.map_congr_left fun language hm => ?_
    have hne : (language == first) = false := by simpa using (List.mem_filter.1 hm).2
    rw [List.lookup_cons, hne]

theorem insertEntry_map {languages : List Language} (h : languages.Nodup)
    (text : Language → Option String) (language : Language) (value : Option String) :
    insertEntry language value (languages.map fun other => (other, text other)) =
      (if language ∈ languages then languages else languages ++ [language]).map fun other =>
        (other, Function.update text language value other) := by
  induction languages with
  | nil => simp [insertEntry]
  | cons first languages ih =>
    rw [List.nodup_cons] at h
    rw [List.map_cons, insertEntry]
    by_cases hfirst : first = language
    · subst hfirst
      have hrest : languages.map (fun other => (other, text other)) =
          languages.map fun other => (other, Function.update text first value other) := by
        refine List.map_congr_left fun other hm => ?_
        rw [Function.update_of_ne (ne_of_mem_of_not_mem hm h.1)]
      simp [hrest]
    · have hmem : language ∈ first :: languages ↔ language ∈ languages := by
        simp [Ne.symm hfirst]
      rw [if_neg hfirst, ih h.2]
      simp only [hmem]
      split <;> simp [Function.update_of_ne hfirst]

theorem change_toLocalized (map : LanguageMap) (change : Change) :
    map.toLocalized.change change = (map.change change).toLocalized := by
  refine congrArg Localized.mk ?_
  cases change with
  | insert language value => exact insertEntry_map map.nodup map.text language value
  | restrict kept =>
    show List.filter _ (List.map _ _) = _
    rw [List.filter_map]
    rfl
  | mapTexts f =>
    show List.map _ (List.map _ _) = _
    rw [List.map_map]
    rfl

/-! ## What look-ups show -/

theorem languages_toLocalized (map : LanguageMap) : map.toLocalized.languages = map.languages := by
  show List.map _ (List.map _ _) = _
  rw [List.map_map]
  exact List.map_id' _

theorem get?_toLocalized (map : LanguageMap) (language : Language) :
    map.toLocalized.get? language = map.get? language := by
  show (map.languages.map fun other => (other, map.text other)).lookup language = _
  unfold LanguageMap.get?
  split
  · rename_i hm
    exact lookup_map_of_mem map.text hm
  · rename_i hm
    refine List.lookup_eq_none_iff.2 fun entry hentry => ?_
    obtain ⟨other, hother, rfl⟩ := List.mem_map.1 hentry
    exact bne_iff_ne.2 (ne_of_mem_of_not_mem hother hm).symm

theorem shows_toLocalized (map : LanguageMap) : map.toLocalized.Shows map where
  languages := languages_toLocalized map
  nodup := by
    rw [languages_toLocalized]
    exact map.nodup
  get? := get?_toLocalized map
  text? language := by
    rw [text?, get?_toLocalized, LanguageMap.get?, LanguageMap.text?]
    split <;> rfl
  size := List.length_map _
  isVacant := by
    show ((map.languages.map _).all _) = true ↔ _
    simp

/-! ## Any number of changes -/

theorem scanl_toLocalized (map : LanguageMap) (changes : List Change) :
    changes.scanl change map.toLocalized =
      (changes.scanl LanguageMap.change map).map LanguageMap.toLocalized := by
  induction changes generalizing map with
  | nil => rfl
  | cons first changes ih =>
    rw [List.scanl_cons, List.scanl_cons, List.map_cons, change_toLocalized, ih]

/-- A text that is collected and then changed any number of times shows its map at every moment. -/
theorem shows_scanl (entries : List (Language × Option String)) (changes : List Change) :
    List.Forall₂ Shows (changes.scanl change (ofList entries))
      (changes.scanl LanguageMap.change (.collect entries)) := by
  rw [ofList_eq_toLocalized, scanl_toLocalized, List.forall₂_map_left_iff]
  exact List.forall₂_same.2 fun map _ => shows_toLocalized map

end Localized

end Questionnaire
