import Questionnaire.Language
import Questionnaire.Proofs.Text.LowerCase

/-!
# Identifiers of languages

An identifier is meant to have letters and numerals only, the first one a letter, and to be its own
identifier. It is what is left of the label when all else is taken out, in lower case; but lower case
comes last, and it puts a combining dot behind the `i` that a capital `I` with a dot becomes. Labels
with this letter have an identifier with dots in it, which is not its own. All other labels have the
identifiers that are meant.

Results:

* `identifier_eq_self_iff`: the texts that are their own identifiers.
* `id_ofLabel`: which identifiers are as they are meant.
-/

namespace Questionnaire.Language

variable {label : List Char} {c : Char}

/-! ## Characters of identifiers -/

theorem mem_foldedList_of_mem_identifier (h : c ∈ identifier label) :
    c = 'l' ∨ c ∈ Text.foldedList (label.filter Text.isAlphanumeric) := by
  simp only [identifier] at h
  split at h
  · exact .inr h
  · exact List.mem_cons.1 h

theorem mem_identifier_of_mem_foldedList
    (h : c ∈ Text.foldedList (label.filter Text.isAlphanumeric)) : c ∈ identifier label := by
  simp only [identifier]
  split
  · exact h
  · exact List.mem_cons_of_mem _ h

theorem lowerChar_of_mem_identifier (h : c ∈ identifier label) : Text.lowerChar c = [c] := by
  rcases mem_foldedList_of_mem_identifier h with rfl | hfolded
  · decide +kernel
  · obtain ⟨d, -, hform⟩ := List.mem_flatMap.1 hfolded
    exact Text.lowerChar_of_mem_lowerChar hform

/-- An identifier has a combining dot exactly when the label has a capital `I` with a dot. -/
theorem isAlphanumeric_of_mem_identifier_iff :
    (∀ c ∈ identifier label, Text.isAlphanumeric c = true) ↔ '\u0130' ∉ label := by
  constructor
  · intro halphanumeric hmem
    have hdot : '\u0307' ∈ identifier label := by
      refine mem_identifier_of_mem_foldedList (List.mem_flatMap.2 ⟨'\u0130', ?_, ?_⟩)
      · exact List.mem_filter.2 ⟨hmem, by decide +kernel⟩
      · decide
    exact absurd (halphanumeric _ hdot) (by decide +kernel)
  · intro hlabel c hc
    rcases mem_foldedList_of_mem_identifier hc with rfl | hfolded
    · decide
    · obtain ⟨d, hd, hform⟩ := List.mem_flatMap.1 hfolded
      obtain ⟨hmem, halphanumeric⟩ := List.mem_filter.1 hd
      have hne : d ≠ '\u0130' := fun heq => hlabel (heq ▸ hmem)
      exact Text.isAlphanumeric_of_mem_lowerChar hne halphanumeric hform

/-! ## Identifiers of identifiers -/

/-- The texts that are their own identifiers. -/
theorem identifier_eq_self_iff {cs : List Char} :
    identifier cs = cs ↔ Text.startsWithLetter cs = true ∧
      ∀ c ∈ cs, Text.isAlphanumeric c = true ∧ Text.lowerChar c = [c] := by
  constructor
  · intro h
    have hlower (c : Char) (hc : c ∈ cs) : Text.lowerChar c = [c] :=
      lowerChar_of_mem_identifier (h.symm ▸ hc)
    have hdotless : '\u0130' ∉ cs := fun hmem => absurd (hlower _ hmem) (by decide)
    have halphanumeric := isAlphanumeric_of_mem_identifier_iff.2 hdotless
    have hstarts := startsWithLetter_identifier cs
    rw [h] at halphanumeric hstarts
    exact ⟨hstarts, fun c hc => ⟨halphanumeric c hc, hlower c hc⟩⟩
  · rintro ⟨hstarts, h⟩
    have hfilter : cs.filter Text.isAlphanumeric = cs :=
      List.filter_eq_self.2 fun c hc => (h c hc).1
    have hfolded : Text.foldedList cs = cs := Text.foldedList_eq_self fun c hc => (h c hc).2
    rw [identifier, hfilter, hfolded, if_pos hstarts]

theorem identifier_identifier_iff :
    identifier (identifier label) = identifier label ↔ '\u0130' ∉ label := by
  rw [identifier_eq_self_iff, ← isAlphanumeric_of_mem_identifier_iff]
  constructor
  · exact fun h c hc => (h.2 c hc).1
  · exact fun h => ⟨startsWithLetter_identifier label, fun c hc =>
      ⟨h c hc, lowerChar_of_mem_identifier hc⟩⟩

/-- An identifier is not empty and starts with a letter. It has letters and numerals only, and it is
its own identifier, exactly when the label has no capital `I` with a dot. -/
theorem id_ofLabel (label : String) :
    (ofLabel label).id ≠ "" ∧ Text.startsWithLetter (ofLabel label).id.toList = true ∧
      ((∀ c ∈ (ofLabel label).id.toList, Text.isAlphanumeric c = true) ↔
        '\u0130' ∉ label.toList) ∧
      ((ofLabel (ofLabel label).id).id = (ofLabel label).id ↔ '\u0130' ∉ label.toList) := by
  have hid (label : String) : (ofLabel label).id.toList = identifier label.toList :=
    String.toList_ofList
  refine ⟨fun hempty => ?_, ?_, ?_, ?_⟩
  · have hnil := hid label
    rw [hempty] at hnil
    exact identifier_ne_nil label.toList hnil.symm
  · rw [hid]
    exact startsWithLetter_identifier label.toList
  · rw [hid]
    exact isAlphanumeric_of_mem_identifier_iff
  · rw [← String.toList_inj, hid, hid]
    exact identifier_identifier_iff

/-- The identifier of a capital `I` with a dot has two characters, of which the second is a
combining dot. It is no numeral and no letter, and the identifier of the identifier is without it. -/
theorem id_ofLabel_dottedI :
    (ofLabel "\u0130").id = "i\u0307" ∧ Text.isAlphanumeric '\u0307' = false ∧
      (ofLabel (ofLabel "\u0130").id).id = "i" := by
  decide +kernel

end Questionnaire.Language
