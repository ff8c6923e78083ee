import Mathlib.Data.List.Basic
import Questionnaire.Text.Casing
import Questionnaire.Text.Letter

/-!
# Lower-case forms are letters in lower case

The form of a character is a letter that is its own form, or the character itself. The capital `I`
with a dot is the exception: it becomes a small `i` and a combining dot, which is no letter.

Main definitions:

* `CaseRun.isLettered`, `CaseRun.isScalar`, `CaseRun.isFinal`: what is checked of the table of runs.

Results:

* `exists_lowerChar`: the form of a character other than the capital `I` with a dot.
* `lowerChar_of_mem_lowerChar`: the characters of a form are their own forms.
-/

namespace Questionnaire.Text

/-! ## Runs -/

namespace CaseRun

/-- The last form of the run. -/
def lastImage (run : CaseRun) : Nat := run.image + (run.last - run.first)

/-- All forms of the run are letters. -/
def isLettered (run : CaseRun) : Bool :=
  letterTable.any fun range => range.1.ble run.image && run.lastImage.ble range.2

/-- All forms of the run are code points, and none is the capital `I` with a dot. -/
def isScalar (run : CaseRun) : Bool :=
  (run.lastImage < 0x130 || 0x130 < run.image) &&
    (run.lastImage < 0xD800 || 0xDFFF < run.image && run.lastImage < 0x110000)

/-- No form of the run has another form in `other`: the forms lie outside of `other`, or between its
characters. -/
def isFinal (run other : CaseRun) : Bool :=
  -- `Nat.blt`, as all pairs of runs are checked
  run.lastImage.blt other.first || other.last.blt run.image ||
    other.step == 2 && (run.step == 2 || run.first == run.last) &&
      (run.image + other.first) % 2 == 1

variable {run other : CaseRun} {n : Nat}

theorem covers_iff :
    run.covers n = true ↔ run.first ≤ n ∧ n ≤ run.last ∧ (n - run.first) % run.step = 0 := by
  simp [covers, and_assoc]

theorem image_le_lastImage (h : run.covers n = true) :
    run.image + (n - run.first) ≤ run.lastImage := by
  obtain ⟨-, hlast, -⟩ := covers_iff.1 h
  unfold lastImage
  omega

theorem toNat_image (hscalar : run.isScalar = true) (h : run.covers n = true) :
    (Char.ofNat (run.image + (n - run.first))).toNat = run.image + (n - run.first) := by
  have hle := image_le_lastImage h
  simp only [isScalar, Bool.and_eq_true, Bool.or_eq_true, decide_eq_true_eq] at hscalar
  have hvalid : (run.image + (n - run.first)).isValidChar :=
    hscalar.2.imp (fun hlow => by omega) fun hhigh => by omega
  rw [Char.ofNat, dif_pos hvalid]
  rfl

theorem covers_image_eq_false (hfinal : run.isFinal other = true) (h : run.covers n = true) :
    other.covers (run.image + (n - run.first)) = false := by
  refine Bool.eq_false_iff.2 fun hother => ?_
  have hle := image_le_lastImage h
  obtain ⟨hfirst, hlast, hstep⟩ := covers_iff.1 h
  obtain ⟨hfirst', hlast', hstep'⟩ := covers_iff.1 hother
  simp only [isFinal, Bool.or_eq_true, Bool.and_eq_true, Nat.blt_eq, beq_iff_eq] at hfinal
  rcases hfinal with (hbelow | habove) | ⟨⟨htwo, hsteps⟩, hodd⟩
  · omega
  · omega
  · -- both runs go by two, and the forms of the one lie between the characters of the other
    rw [htwo] at hstep'
    rcases hsteps with htwo' | hsingle
    · rw [htwo'] at hstep
      omega
    · omega

end CaseRun

/-! ## The table of runs -/

theorem isLettered_of_mem_lowerRuns {run : CaseRun} (h : run ∈ lowerRuns) :
    run.isLettered = true := by
  have hall : lowerRuns.all CaseRun.isLettered = true := by decide +kernel
  exact List.all_eq_true.1 hall run h

theorem isScalar_of_mem_lowerRuns {run : CaseRun} (h : run ∈ lowerRuns) : run.isScalar = true := by
  have hall : lowerRuns.all CaseRun.isScalar = true := by decide +kernel
  exact List.all_eq_true.1 hall run h

theorem isFinal_of_mem_lowerRuns {run other : CaseRun} (h : run ∈ lowerRuns)
    (hother : other ∈ lowerRuns) : run.isFinal other = true := by
  have hall : (lowerRuns.all fun run => lowerRuns.all run.isFinal) = true := by decide +kernel
  exact List.all_eq_true.1 (List.all_eq_true.1 hall run h) other hother

/-! ## Characters -/

theorem lowerChar_eq_self {c : Char} (hc : c ≠ '\u0130')
    (h : ∀ run ∈ lowerRuns, run.covers c.toNat = false) : lowerChar c = [c] := by
  have hnone : (lowerRuns.find? fun run => run.covers c.toNat) = none :=
    List.find?_eq_none.2 fun run hrun => by simp [h run hrun]
  rw [lowerChar, if_neg hc, hnone]

/-- The form of a character is a letter, or the character itself; it is its own form. -/
theorem exists_lowerChar {c : Char} (hc : c ≠ '\u0130') :
    ∃ d, lowerChar c = [d] ∧ lowerChar d = [d] ∧ (d = c ∨ isLetter d = true) := by
  cases hfind : lowerRuns.find? fun run => run.covers c.toNat with
  | none =>
    have hself : lowerChar c = [c] := by rw [lowerChar, if_neg hc, hfind]
    exact ⟨c, hself, hself, .inl rfl⟩
  | some run =>
    have hrun := List.mem_of_find?_eq_some hfind
    have hcovers : run.covers c.toNat = true := (List.find?_some hfind :)
    have hscalar := isScalar_of_mem_lowerRuns hrun
    have hle := CaseRun.image_le_lastImage hcovers
    have htoNat := CaseRun.toNat_image hscalar hcovers
    refine ⟨_, by rw [lowerChar, if_neg hc, hfind], lowerChar_eq_self ?_ ?_, .inr ?_⟩
    · intro heq
      have hdot := congrArg Char.toNat heq
      rw [htoNat, show '\u0130'.toNat = 0x130 from rfl] at hdot
      simp only [CaseRun.isScalar, Bool.and_eq_true, Bool.or_eq_true, decide_eq_true_eq] at hscalar
      omega
    · intro other hother
      rw [htoNat]
      exact CaseRun.covers_image_eq_false (isFinal_of_mem_lowerRuns hrun hother) hcovers
    · have hlettered := isLettered_of_mem_lowerRuns hrun
      simp only [CaseRun.isLettered, List.any_eq_true, Bool.and_eq_true, Nat.ble_eq] at hlettered
      obtain ⟨range, hrange, hfirst, hlast⟩ := hlettered
      refine CharTable.contains_iff.2 ⟨range, hrange, ?_⟩
      rw [htoNat]
      omega

/-- The characters of a form are their own forms. -/
theorem lowerChar_of_mem_lowerChar {c d : Char} (h : d ∈ lowerChar c) : lowerChar d = [d] := by
  by_cases hc : c = '\u0130'
  · subst hc
    obtain rfl | rfl : d = 'i' ∨ d = '\u0307' := by simpa [lowerChar] using h
    · decide +kernel
    · decide +kernel
  · obtain ⟨d', hform, hself, -⟩ := exists_lowerChar hc
    rw [hform, List.mem_singleton] at h
    rw [h, hself]

theorem isAlphanumeric_of_mem_lowerChar {c d : Char} (hc : c ≠ '\u0130')
    (halphanumeric : isAlphanumeric c = true) (h : d ∈ lowerChar c) : isAlphanumeric d = true := by
  obtain ⟨d', hform, -, hletter⟩ := exists_lowerChar hc
  rw [hform, List.mem_singleton] at h
  subst h
  rcases hletter with rfl | hletter
  · exact halphanumeric
  · rw [isAlphanumeric, hletter, Bool.true_or]

/-! ## Texts -/

theorem foldedList_eq_self {cs : List Char} (h : ∀ c ∈ cs, lowerChar c = [c]) :
    foldedList cs = cs :=
  (List.flatMap_congr h).trans (List.flatMap_singleton' cs)

end Questionnaire.Text
