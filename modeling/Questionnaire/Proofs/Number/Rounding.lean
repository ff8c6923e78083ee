import Mathlib.Algebra.Order.Field.Power
import Mathlib.Data.Nat.Log
import Mathlib.Data.Rat.Cast.Order
import Mathlib.Tactic.Linarith
import Mathlib.Tactic.Positivity
import Mathlib.Tactic.Ring
import Questionnaire.Number.Binary64

/-!
# Rounding does not pass a whole number

A ratio that is at most a whole number is rounded to at most this number, be it to a natural number
or to a binary one, as far as whole numbers are binary ones.

Main definitions:

* `Binary64.Below`: the magnitude of a number is at most a natural number.

Results:

* `roundEven_le`, `roundUp_le`: natural numbers.
* `Binary64.nearest_below`: binary numbers.
-/

namespace Questionnaire.Number

/-! ## Natural numbers -/

variable {num den bound : ℕ}

theorem roundEven_le (h : num ≤ bound * den) : roundEven num den ≤ bound := by
  obtain rfl | hden := Nat.eq_zero_or_pos den
  · simp only [Nat.mul_zero, Nat.le_zero] at h
    simp [roundEven, h]
  have hdiv := Nat.div_add_mod num den
  have hrest := Nat.mod_lt num hden
  have hle : num / den ≤ bound := Nat.div_le_of_le_mul (by rwa [Nat.mul_comm])
  -- a ratio that is rounded up is not whole
  have hlt (hpos : 0 < num % den) : num / den < bound := by
    refine Nat.lt_of_le_of_ne hle fun heq => ?_
    rw [heq, Nat.mul_comm] at hdiv
    omega
  unfold roundEven
  dsimp only
  split
  · exact hle
  · have := hlt (by omega)
    split <;> omega

theorem roundUp_le (hden : 0 < den) (h : num ≤ bound * den) : roundUp num den ≤ bound := by
  rw [roundUp, ← Nat.lt_succ_iff, Nat.div_lt_iff_lt_mul (by omega)]
  have hsucc : (bound + 1) * (2 * den) = 2 * (bound * den) + 2 * den := by ring
  rw [Nat.succ_eq_add_one, hsucc]
  omega

/-! ## Binary numbers -/

namespace Binary64

theorem scaled_snd_pos (m : ℕ) (e : ℤ) : 0 < (scaled m e).2 := by
  simp [scaled, Nat.shiftLeft_eq]

/-- The ratio is `m · 2^e`. -/
theorem scaled_le_iff (m : ℕ) (e : ℤ) :
    (scaled m e).1 ≤ bound * (scaled m e).2 ↔ (m : ℚ) * 2 ^ e ≤ bound := by
  obtain ⟨k, rfl | rfl⟩ := e.eq_nat_or_neg
  · simp only [scaled, Nat.shiftLeft_eq, Int.toNat_natCast, Int.toNat_neg_natCast, zpow_natCast]
    exact_mod_cast Iff.of_eq (by simp)
  · have hpow : (0 : ℚ) < 2 ^ k := by positivity
    simp only [scaled, Nat.shiftLeft_eq, neg_neg, Int.toNat_natCast, Int.toNat_neg_natCast, zpow_neg,
      zpow_natCast, ← div_eq_mul_inv, div_le_iff₀ hpow]
    exact_mod_cast Iff.of_eq (by simp)

/-- The magnitude of a number is at most a natural number. -/
def Below (bound : ℕ) : Binary64 → Prop
  | finite _ significand exponent => (significand : ℚ) * 2 ^ exponent ≤ bound
  | _ => False

theorem magnitude_le (hnum : num ≠ 0) (h : num < 2 ^ 52 * den) : magnitude num den ≤ 52 := by
  have hden : den < 2 ^ (den.log2 + 1) := Nat.lt_log2_self
  have hlog : num.log2 < 53 + den.log2 := by
    refine (Nat.log2_lt hnum).2 (h.trans ?_)
    calc 2 ^ 52 * den < 2 ^ 52 * 2 ^ (den.log2 + 1) := by omega
      _ = 2 ^ (53 + den.log2) := by rw [← pow_add]; congr 1; omega
  unfold magnitude
  dsimp only
  split <;> omega

/-- Numbers of at most 52 bits are not passed, as they are multiples of what is rounded to. -/
theorem nearest_below (negative : Bool) (hbound : bound < 2 ^ 52) (h : num ≤ bound * den)
    (hden : 0 < den) : (nearest negative num den).Below bound := by
  unfold nearest
  split
  · simp [Below]
  · rename_i hnum
    have hlt : num < 2 ^ 52 * den := h.trans_lt (Nat.mul_lt_mul_of_pos_right hbound hden)
    have hmagnitude := magnitude_le hnum hlt
    obtain ⟨k, hk⟩ : ∃ k : ℕ, max leastExponent (magnitude num den - 52) = -k := by
      have hleast : leastExponent = -1074 := rfl
      exact ⟨(-max leastExponent (magnitude num den - 52)).toNat, by omega⟩
    have hgreatest : greatestExponent = 971 := rfl
    simp only [hk, neg_neg, Int.toNat_natCast, Int.toNat_neg_natCast, Nat.shiftLeft_eq, pow_zero,
      Nat.mul_one]
    have hsignificand : (roundEven (num * 2 ^ k) den : ℚ) * 2 ^ (-k : ℤ) ≤ bound := by
      have hle : roundEven (num * 2 ^ k) den ≤ bound * 2 ^ k := by
        refine roundEven_le ?_
        rw [Nat.mul_right_comm]
        exact Nat.mul_le_mul_right _ h
      rw [zpow_neg, zpow_natCast, ← div_eq_mul_inv, div_le_iff₀ (by positivity)]
      exact_mod_cast hle
    split
    · rename_i hcarry
      rw [if_neg (by omega)]
      rw [hcarry] at hsignificand
      refine le_trans (le_of_eq ?_) hsignificand
      rw [zpow_add₀ (by norm_num)]
      push_cast
      ring
    · rw [if_neg (by omega)]
      exact hsignificand

/-- A rounded product is at most the product of the bounds, if that has at most 52 bits. -/
theorem mul_below {x y : Binary64} {bound' : ℕ} (hx : x.Below bound) (hy : y.Below bound')
    (hbound : bound * bound' < 2 ^ 52) : (x.mul y).Below (bound * bound') := by
  cases x with
  | finite negative m e =>
    cases y with
    | finite negative' m' e' =>
      refine nearest_below _ hbound ((scaled_le_iff _ _).2 ?_) (scaled_snd_pos _ _)
      calc ((m * m' : ℕ) : ℚ) * 2 ^ (e + e') = (m * 2 ^ e) * (m' * 2 ^ e') := by
            rw [zpow_add₀ (by norm_num)]
            push_cast
            ring
        _ ≤ bound * bound' := mul_le_mul hx hy (by positivity) (by positivity)
        _ = ((bound * bound' : ℕ) : ℚ) := by push_cast; rfl
    | infinite _ => exact hy.elim
    | nan => exact hy.elim
  | infinite _ => exact hx.elim
  | nan => exact hx.elim

end Binary64

end Questionnaire.Number
