import Questionnaire.Workbook

/-!
# Tidy texts

A tidy text is not blank and has no blanks around it. Every text that is read from a cell is tidy,
and a tidy text is read from the cell that it was written into.

Results:

* `trimList_eq_self_iff`: trimming keeps a text exactly when it neither begins nor ends blank.
* `trimList_surrounded`, `trimList_trimList`: blanks around a text do not count.
* `Tidy.append`: a text is tidy if it begins and ends with tidy texts.
* `cellText_written`: a cell is read as the optional tidy text that was written into it.
-/

namespace Questionnaire

namespace Text

/-! ## Trimming -/

theorem length_trimEnd_le (cs : List Char) : (trimEnd cs).length ≤ cs.length := by
  induction cs with
  | nil => exact Nat.le_refl 0
  | cons c cs ih =>
    rw [trimEnd]
    split
    · split <;> simp
    · rename_i d ds h
      rw [h] at ih
      simp only [List.length_cons] at ih ⊢
      omega

theorem trimEnd_eq_self_iff {cs : List Char} :
    trimEnd cs = cs ↔ ∀ c, cs.getLast? = some c → isBlank c = false := by
  induction cs with
  | nil => simp [trimEnd]
  | cons c cs ih =>
    cases cs with
    | nil => by_cases h : isBlank c = true <;> simp [trimEnd, h]
    | cons d ds =>
      rw [List.getLast?_cons_cons, ← ih, trimEnd]
      constructor
      · intro h
        split at h
        · split at h <;> simp at h
        · rename_i heq
          rw [heq]
          exact (List.cons.inj h).2
      · intro h
        rw [h]

theorem trimList_eq_self_iff {cs : List Char} :
    trimList cs = cs ↔ (∀ c, cs.head? = some c → isBlank c = false) ∧
      ∀ c, cs.getLast? = some c → isBlank c = false := by
  cases cs with
  | nil => simp [trimList, trimEnd]
  | cons c cs =>
    by_cases hblank : isBlank c = true
    · constructor
      · intro h
        -- a blank in front is lost, so the text would be shorter
        have hlength := length_trimEnd_le (cs.dropWhile isBlank)
        have hdrop := (List.dropWhile_sublist (l := cs) isBlank).length_le
        have htrim : trimList (c :: cs) = trimEnd (cs.dropWhile isBlank) := by
          rw [trimList, List.dropWhile_cons_of_pos hblank]
        rw [htrim] at h
        rw [h, List.length_cons] at hlength
        omega
      · intro h
        have := h.1 c rfl
        rw [hblank] at this
        cases this
    · rw [trimList, List.dropWhile_cons_of_neg hblank, trimEnd_eq_self_iff]
      simpa using fun _ => hblank

/-- Blanks at the end are dropped. -/
theorem trimEnd_append_of_blank (cs : List Char) {after : List Char}
    (h : ∀ c ∈ after, isBlank c = true) : trimEnd (cs ++ after) = trimEnd cs := by
  induction cs with
  | nil => exact trimEnd_eq_nil_iff.2 h
  | cons c cs ih => rw [List.cons_append, trimEnd, trimEnd, ih]

theorem exists_trimEnd_append (cs : List Char) :
    ∃ after, (∀ c ∈ after, isBlank c = true) ∧ cs = trimEnd cs ++ after := by
  induction cs with
  | nil => exact ⟨[], nofun, rfl⟩
  | cons c cs ih =>
    obtain ⟨after, hafter, heq⟩ := ih
    rw [trimEnd]
    split
    · rename_i hnil
      rw [hnil, List.nil_append] at heq
      subst heq
      split
      · rename_i hblank
        exact ⟨c :: cs, by simpa using ⟨hblank, hafter⟩, rfl⟩
      · exact ⟨cs, hafter, rfl⟩
    · rename_i d ds hcons
      rw [hcons] at heq
      exact ⟨after, hafter, congrArg (c :: ·) heq⟩

/-- Blanks around a text are dropped. -/
theorem trimList_surrounded {before after : List Char} (hbefore : ∀ c ∈ before, isBlank c = true)
    (cs : List Char) (hafter : ∀ c ∈ after, isBlank c = true) :
    trimList (before ++ cs ++ after) = trimList cs := by
  unfold trimList
  rw [List.append_assoc, List.dropWhile_append_of_pos hbefore, List.dropWhile_append]
  split
  · rename_i hempty
    rw [List.isEmpty_iff.1 hempty]
    exact trimList_eq_nil_iff.2 hafter
  · exact trimEnd_append_of_blank _ hafter

/-- A text is its trimmed text with blanks around it. -/
theorem exists_surrounded (cs : List Char) :
    ∃ before after, (∀ c ∈ before, isBlank c = true) ∧ (∀ c ∈ after, isBlank c = true) ∧
      cs = before ++ trimList cs ++ after := by
  obtain ⟨after, hafter, heq⟩ := exists_trimEnd_append (cs.dropWhile isBlank)
  refine ⟨cs.takeWhile isBlank, after, List.all_eq_true.1 List.all_takeWhile, hafter, ?_⟩
  rw [List.append_assoc, trimList, ← heq, List.takeWhile_append_dropWhile]

theorem trimList_trimList (cs : List Char) : trimList (trimList cs) = trimList cs := by
  obtain ⟨before, after, hbefore, hafter, heq⟩ := exists_surrounded cs
  have hsurrounded := trimList_surrounded hbefore (trimList cs) hafter
  rw [← heq] at hsurrounded
  exact hsurrounded.symm

/-! ## Tidy texts -/

/-- The text is not blank and has no blanks around it. -/
def Tidy (s : String) : Prop := trimmed? s = some s

instance (s : String) : Decidable (Tidy s) := inferInstanceAs (Decidable (trimmed? s = some s))

theorem tidy_iff {s : String} : Tidy s ↔
    s ≠ "" ∧ (∀ c, s.toList.head? = some c → isBlank c = false) ∧
      ∀ c, s.toList.getLast? = some c → isBlank c = false := by
  rw [Tidy, trimmed?_eq_some_iff, ← trimList_eq_self_iff, and_comm]
  refine and_congr_right fun _ => ?_
  rw [trim, ← String.toList_inj, String.toList_ofList]

theorem Tidy.trim_eq {s : String} (h : Tidy s) : trim s = s := (trimmed?_eq_some_iff.1 h).1

/-- A text without any blank is tidy. -/
theorem tidy_of_not_isBlank {s : String} (hne : s ≠ "")
    (h : ∀ c ∈ s.toList, isBlank c = false) : Tidy s :=
  tidy_iff.2
    ⟨hne, fun c hc => h c (List.mem_of_head? hc), fun c hc => h c (List.mem_of_getLast? hc)⟩

theorem Tidy.append {s t : String} (hs : Tidy s) (ht : Tidy t) (middle : String) :
    Tidy (s ++ (middle ++ t)) := by
  obtain ⟨hs, hhead, -⟩ := tidy_iff.1 hs
  obtain ⟨ht, -, hlast⟩ := tidy_iff.1 ht
  have hs : s.toList ≠ [] := fun h => hs (String.toList_inj.1 h)
  have ht : t.toList ≠ [] := fun h => ht (String.toList_inj.1 h)
  simp only [tidy_iff, String.toList_append]
  refine ⟨fun h => hs ?_, fun c hc => hhead c ?_, fun c hc => hlast c ?_⟩
  · have hlist := congrArg String.toList h
    rw [String.toList_append] at hlist
    exact List.append_eq_nil_iff.1 hlist |>.1
  · obtain ⟨d, ds, hd⟩ := List.exists_cons_of_ne_nil hs
    rw [hd] at hc ⊢
    exact hc
  · rw [List.getLast?_append, List.getLast?_append, List.getLast?_eq_some_getLast ht,
      Option.some_or, Option.some_or] at hc
    rw [List.getLast?_eq_some_getLast ht, hc]

end Text

/-! ## Cells -/

/-- The text of the cell that an optional text is written into. -/
def written (text : Option String) : String := text.getD ""

theorem cellText_written {text : Option String} (h : ∀ s, text = some s → Text.Tidy s) :
    cellText (some (written text)) = text := by
  cases text with
  | none => decide
  | some s => exact h s rfl

theorem cellText_tidy {s : String} (h : Text.Tidy s) : cellText (some s) = some s := h

end Questionnaire
