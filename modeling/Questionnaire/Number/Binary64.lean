/-!
# Binary floating-point numbers

A finite number of 64 bits is `± m · 2^e` with `m < 2^53`. Its magnitude is handled as a ratio of
natural numbers, so that everything about it is exact.

Main definitions:

* `Binary64`: the numbers, `Binary64.mul` their product.
* `Binary64.nearest`: the number nearest to a ratio, a tie going to the even neighbour.
* `Binary64.ofDecimal`: the number nearest to a decimal.

Results:

* `roundEven_mul`, `roundUp_mul`: a whole ratio is rounded to itself.
-/

namespace Questionnaire.Number

/-- The powers of ten. -/
def tenTo (k : Nat) : Nat := Nat.pow 10 k

/-! ## Rounding -/

/-- The natural number nearest to a ratio, a tie going to the even one. -/
def roundEven (num den : Nat) : Nat :=
  let whole := num / den
  let rest := num % den
  if 2 * rest < den then whole
  else if den < 2 * rest then whole + 1
  else whole + whole % 2

/-- The natural number nearest to a ratio, a tie going up. -/
def roundUp (num den : Nat) : Nat := (2 * num + den) / (2 * den)

theorem roundEven_mul (n : Nat) {den : Nat} (h : 0 < den) : roundEven (n * den) den = n := by
  simp [roundEven, Nat.mul_div_cancel n h, h]

theorem roundUp_mul (n : Nat) {den : Nat} (h : 0 < den) : roundUp (n * den) den = n := by
  unfold roundUp
  rw [Nat.div_eq_iff (by omega), show n * (2 * den) = 2 * (n * den) by
    rw [Nat.mul_left_comm]]
  omega

/-! ## Numbers -/

inductive Binary64 where
  /-- The number `± significand · 2^exponent`. -/
  | finite (negative : Bool) (significand : Nat) (exponent : Int)
  | infinite (negative : Bool)
  | nan
  deriving DecidableEq

namespace Binary64

/-- The least significand of 53 bits, `2^52`. -/
def leastNormal : Nat := 0x10000000000000

/-- The exponent of the smallest numbers. -/
def leastExponent : Int := -1074

/-- The exponent of the greatest numbers. -/
def greatestExponent : Int := 971

/-- The ratio `m · 2^e`, as numerator and denominator. -/
def scaled (m : Nat) (e : Int) : Nat × Nat := (m <<< e.toNat, 1 <<< (-e).toNat)

/-- The greatest `k` with `2^k ≤ num / den`, for a ratio that is not zero. -/
def magnitude (num den : Nat) : Int :=
  let k : Int := (num.log2 : Int) - den.log2
  if den <<< k.toNat ≤ num <<< (-k).toNat then k else k - 1

/-- The number nearest to a ratio. -/
def nearest (negative : Bool) (num den : Nat) : Binary64 :=
  if num = 0 then finite negative 0 leastExponent
  else
    let exponent := max leastExponent (magnitude num den - 52)
    let significand := roundEven (num <<< (-exponent).toNat) (den <<< exponent.toNat)
    let number : Nat × Int :=
      if significand = 2 * leastNormal then (leastNormal, exponent + 1) else (significand, exponent)
    if greatestExponent < number.2 then infinite negative
    else finite negative number.1 number.2

/-- The number nearest to `± m · 10^e`. -/
def ofDecimal (negative : Bool) (m : Nat) (e : Int) : Binary64 :=
  nearest negative (m * tenTo e.toNat) (tenTo (-e).toNat)

/-- The product, rounded to the nearest number. -/
def mul : Binary64 → Binary64 → Binary64
  | finite negative m e, finite negative' m' e' =>
    let ratio := scaled (m * m') (e + e')
    nearest (negative != negative') ratio.1 ratio.2
  | nan, _ | _, nan => nan
  | infinite negative, finite negative' m _ | finite negative m _, infinite negative' =>
    if m = 0 then nan else infinite (negative != negative')
  | infinite negative, infinite negative' => infinite (negative != negative')

end Binary64

end Questionnaire.Number
