import Questionnaire.Number.Binary64
import Questionnaire.Text.Digits

/-!
# The shortest decimal text of a number

A number is written with the fewest digits that are nearer to it than to any other number of 64
bits, and of those with the digits nearest to it. The digits are written out in full, without an
exponent.

Main definitions:

* `Interval`: the ratios that round to a number.
* `shortest`: the digits and the power of ten they are to be scaled by.
* `Binary64.text`: the decimal text.
-/

namespace Questionnaire.Number

/-- The ratios from `low` to `high` over one denominator, with `value` between them. -/
structure Interval where
  low : Nat
  value : Nat
  high : Nat
  den : Nat
  /-- Both ends belong to the interval. -/
  closed : Bool

namespace Interval

/-- The ratios that round to `significand · 2^exponent`. Below a power of two the numbers are
twice as close, and a tie goes to an even significand. -/
def around (significand : Nat) (exponent : Int) : Interval :=
  let scale := Binary64.scaled 1 (exponent - 2)
  let below :=
    if significand = Binary64.leastNormal ∧ Binary64.leastExponent < exponent then 1 else 2
  { low := (4 * significand - below) * scale.1
    value := 4 * significand * scale.1
    high := (4 * significand + 2) * scale.1
    den := scale.2
    closed := significand % 2 = 0 }

/-- The decimal `d · 10^k` lies in the interval. -/
def contains (i : Interval) (d : Nat) (k : Int) : Bool :=
  let point := d * tenTo k.toNat * i.den
  let unit := tenTo (-k).toNat
  if i.closed then i.low * unit ≤ point && point ≤ i.high * unit
  else i.low * unit < point && point < i.high * unit

/-- The decimal multiple of `10^k` that is nearest to the value and in the interval, if one is. A
tie goes up. -/
def nearestMultiple? (i : Interval) (k : Int) : Option Nat :=
  let num := i.value * tenTo (-k).toNat
  let den := i.den * tenTo k.toNat
  let below := num / den
  match i.contains below k, i.contains (below + 1) k with
  | true, true => some (roundUp num den)
  | true, false => some below
  | false, true => some (below + 1)
  | false, false => none

end Interval

/-- The least `p` with `num / den < 10^p`, for a ratio that is not zero. -/
def decimalMagnitude (num den : Nat) : Int :=
  if den ≤ num then (Text.digits (num / den)).length
  else 1 - ((Text.digits ((den - 1) / num)).length : Int)

/-- The first digits from `count` on that lie in the interval, with the power of ten they are
scaled by. Seventeen digits always suffice. -/
def shortestFrom (i : Interval) (magnitude : Int) (count : Nat) : Nat → Nat × Int
  | 0 => (i.value / i.den, 0)
  | fuel + 1 =>
    match i.nearestMultiple? (magnitude - count) with
    | some d => (d, magnitude - count)
    | none => shortestFrom i magnitude (count + 1) fuel

/-- The fewest digits of a positive number. -/
def shortest (significand : Nat) (exponent : Int) : Nat × Int :=
  let i := Interval.around significand exponent
  shortestFrom i (decimalMagnitude i.value i.den) 1 17

/-! ## Texts -/

/-- The digits of a fraction without zeros at the end, behind a point. -/
def fractionText (cs : List Char) : List Char :=
  match (cs.reverse.dropWhile (· = '0')).reverse with
  | [] => []
  | digits@(_ :: _) => '.' :: digits

/-- The decimal `d · 10^k` written out in full. -/
def positional (d : Nat) (k : Int) : List Char :=
  if 0 ≤ k then Text.digits (d * tenTo k.toNat)
  else
    let places := (-k).toNat
    let cs := Text.padded (places + 1) d
    cs.take (cs.length - places) ++ fractionText (cs.drop (cs.length - places))

def signText (negative : Bool) : List Char := if negative then ['-'] else []

/-- The decimal text of a number. -/
def Binary64.text : Binary64 → String
  | .nan => "NaN"
  | .infinite negative => String.ofList (signText negative ++ "inf".toList)
  | .finite negative significand exponent =>
    let digits := if significand = 0 then (0, 0) else shortest significand exponent
    String.ofList (signText negative ++ positional digits.1 digits.2)

end Questionnaire.Number
