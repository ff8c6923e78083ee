import Mathlib.Algebra.Group.Nat.Defs
import Questionnaire.Text.Digits

/-!
# Lengths of written numbers

A number has as many digits as its size tells, and padded with zeros it has as many as asked for.
What is written with a known number of digits can be read back from among other texts.

Main definitions:

* `readDigits?`: the number written with a given number of digits.

Results:

* `length_digits_le_iff`: how many digits a number has.
* `readDigits?_padded`: padded numbers are read back.
-/

namespace Questionnaire.Text

/-! ## Digits -/

theorem isDigit_digitChar {d : Nat} (h : d < 10) : isDigit (digitChar d) = true := by
  have hall : ∀ d < 10, isDigit (digitChar d) = true := by decide
  exact hall d h

theorem isDigit_of_mem_digits {n : Nat} {c : Char} (h : c ∈ digits n) : isDigit c = true := by
  fun_induction digits n with
  | case1 n hlt => exact List.mem_singleton.1 h ▸ isDigit_digitChar hlt
  | case2 n _ ih =>
    rcases List.mem_append.1 h with hfront | hlast
    · exact ih hfront
    · exact List.mem_singleton.1 hlast ▸ isDigit_digitChar (Nat.mod_lt n (by decide))

theorem isDigit_of_mem_padded {width n : Nat} {c : Char} (h : c ∈ padded width n) :
    isDigit c = true := by
  rcases List.mem_append.1 h with hzero | hdigit
  · exact List.eq_of_mem_replicate hzero ▸ (by decide : isDigit '0' = true)
  · exact isDigit_of_mem_digits hdigit

theorem digits_ne_nil (n : Nat) : digits n ≠ [] := by
  unfold digits
  split <;> simp

/-- Only zero is written with a zero in front. -/
theorem head?_digits {n : Nat} (h : 0 < n) : (digits n).head? ≠ some '0' := by
  fun_induction digits n with
  | case1 n hlt =>
    have hall : ∀ n < 10, 0 < n → [digitChar n].head? ≠ some '0' := by decide
    exact hall n hlt h
  | case2 n hge ih =>
    have ih := ih (Nat.div_pos (Nat.le_of_not_lt hge) (by decide))
    obtain ⟨c, cs, hdigits⟩ := List.exists_cons_of_ne_nil (digits_ne_nil (n / 10))
    rw [hdigits] at ih ⊢
    exact ih

/-! ## Lengths -/

theorem length_digits_le_iff {width n : Nat} :
    (digits n).length ≤ width + 1 ↔ n < 10 ^ (width + 1) := by
  induction width generalizing n with
  | zero =>
    unfold digits
    have hpos := List.length_pos_iff.2 (digits_ne_nil (n / 10))
    split
    · simpa
    · rw [List.length_append, List.length_singleton]
      omega
  | succ width ih =>
    unfold digits
    split
    · rename_i hlt
      have hpow : 10 ≤ 10 ^ (width + 1 + 1) := Nat.le_self_pow (by omega) 10
      exact iff_of_true (by simp) (Nat.lt_of_lt_of_le hlt hpow)
    · rw [List.length_append, List.length_singleton, Nat.add_le_add_iff_right, ih,
        Nat.div_lt_iff_lt_mul (by decide), ← Nat.pow_succ]

theorem length_padded {width n : Nat} (h : n < 10 ^ (width + 1)) :
    (padded (width + 1) n).length = width + 1 := by
  have hle := length_digits_le_iff.2 h
  rw [padded, List.length_append, List.length_replicate]
  omega

/-! ## Reading -/

/-- The number written with exactly so many digits. -/
def readDigits? (width : Nat) (cs : List Char) : Option Nat :=
  if cs.length = width ∧ cs.all isDigit = true then some (number cs) else none

theorem readDigits?_padded {width n : Nat} (h : n < 10 ^ (width + 1)) :
    readDigits? (width + 1) (padded (width + 1) n) = some n := by
  have hall : (padded (width + 1) n).all isDigit = true :=
    List.all_eq_true.2 fun c hc => isDigit_of_mem_padded hc
  rw [readDigits?, if_pos ⟨length_padded h, hall⟩, number_padded]

end Questionnaire.Text
