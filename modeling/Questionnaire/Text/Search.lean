/-!
# Searching texts

Main definitions:

* `dropPrefix?`: what follows a given beginning of a text.
* `containsList`, `contains`: whether a fragment occurs in a text.
* `replaceList`, `replace`: every occurrence of a fragment replaced, from left to right.
* `joinWith`: texts joined by a separator.

Results:

* `dropPrefix?_eq_some_iff`: a text is the beginning followed by what is left.
* `containsList_iff`: a fragment occurs exactly when the text splits around it.
-/

namespace Questionnaire.Text

/-- What follows `front` at the start of a text, if the text begins so. -/
def dropPrefix? : List Char → List Char → Option (List Char)
  | [], cs => some cs
  | _ :: _, [] => none
  | f :: front, c :: cs => if f = c then dropPrefix? front cs else none

theorem dropPrefix?_eq_some_iff {front cs rest : List Char} :
    dropPrefix? front cs = some rest ↔ cs = front ++ rest := by
  induction front generalizing cs with
  | nil => simp [dropPrefix?]
  | cons f front ih =>
    cases cs with
    | nil => simp [dropPrefix?]
    | cons c cs =>
      by_cases h : f = c
      · subst h; simp [dropPrefix?, ih]
      · simp [dropPrefix?, h, Ne.symm h]

/-- `fragment` occurs somewhere in the text. -/
def containsList (fragment : List Char) : List Char → Bool
  | [] => fragment.isEmpty
  | c :: cs => (dropPrefix? fragment (c :: cs)).isSome || containsList fragment cs

theorem containsList_iff {fragment cs : List Char} :
    containsList fragment cs = true ↔ ∃ before after, cs = before ++ fragment ++ after := by
  induction cs with
  | nil => simp [containsList]
  | cons c cs ih =>
    simp only [containsList, Bool.or_eq_true, Option.isSome_iff_exists, ih,
      dropPrefix?_eq_some_iff]
    constructor
    · rintro (⟨rest, h⟩ | ⟨before, after, h⟩)
      · exact ⟨[], rest, by simp [h]⟩
      · exact ⟨c :: before, after, by simp [h]⟩
    · rintro ⟨before, after, h⟩
      cases before with
      | nil => exact .inl ⟨after, by simpa using h⟩
      | cons b before =>
        simp only [List.cons_append, List.cons.injEq] at h
        exact .inr ⟨before, after, h.2⟩

def contains (s fragment : String) : Bool := containsList fragment.toList s.toList

/-! ## Replacing -/

/-- Every occurrence of `pattern` gives way to `image`; the search goes on behind it. -/
def replaceList (pattern image : List Char) (cs : List Char) : List Char :=
  match pattern, cs with
  | [], [] => image
  | [], c :: cs => image ++ c :: replaceList [] image cs
  | _ :: _, [] => []
  | p :: ps, c :: cs =>
    match h : dropPrefix? (p :: ps) (c :: cs) with
    | some rest =>
      have : rest.length < cs.length + 1 := by
        have := congrArg List.length (dropPrefix?_eq_some_iff.1 h)
        simp at this; omega
      image ++ replaceList (p :: ps) image rest
    | none => c :: replaceList (p :: ps) image cs
termination_by cs.length

def replace (s pattern image : String) : String :=
  String.ofList (replaceList pattern.toList image.toList s.toList)

/-! ## Joining -/

/-- The texts one after the other, with the separator between any two. -/
def joinWith (separator : String) : List String → String
  | [] => ""
  | [s] => s
  | s :: t :: rest => s ++ separator ++ joinWith separator (t :: rest)

end Questionnaire.Text
