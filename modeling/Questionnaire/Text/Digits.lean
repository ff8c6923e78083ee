/-!
# Digits

Natural numbers are written with the digits `0` to `9` and no leading zero, or padded with zeros
to a least width. Hexadecimal digits go on with the letters `a` to `f`.

Results:

* `number_digits`: the digits of a number read back as that number.
* `number_padded`: so do its digits padded with zeros.
-/

namespace Questionnaire.Text

/-- The digits `0` to `9` alone. -/
def isDigit (c : Char) : Bool := '0' ≤ c && c ≤ '9'

def digitChar (d : Nat) : Char := Char.ofNat (48 + d)

/-- The value of a digit. -/
def digitValue (c : Char) : Nat := c.toNat - 48

/-- The decimal digits of a number, the highest first. -/
def digits (n : Nat) : List Char :=
  if n < 10 then [digitChar n] else digits (n / 10) ++ [digitChar (n % 10)]

/-- The number that a row of digits stands for. -/
def number (cs : List Char) : Nat := cs.foldl (fun n c => 10 * n + digitValue c) 0

theorem digitValue_digitChar {d : Nat} (h : d < 10) : digitValue (digitChar d) = d := by
  have : d = 0 ∨ d = 1 ∨ d = 2 ∨ d = 3 ∨ d = 4 ∨ d = 5 ∨ d = 6 ∨ d = 7 ∨ d = 8 ∨ d = 9 := by
    omega
  rcases this with h | h | h | h | h | h | h | h | h | h <;> subst h <;> decide

theorem number_append_singleton (cs : List Char) (c : Char) :
    number (cs ++ [c]) = 10 * number cs + digitValue c := by
  simp [number]

theorem number_digits (n : Nat) : number (digits n) = n := by
  fun_induction digits n with
  | case1 n h => simp [number, digitValue_digitChar h]
  | case2 n _ ih =>
    rw [number_append_singleton, ih, digitValue_digitChar (Nat.mod_lt n (by omega))]
    omega

/-- The digits of a number, with zeros in front up to the width. -/
def padded (width n : Nat) : List Char :=
  List.replicate (width - (digits n).length) '0' ++ digits n

theorem number_padded (width n : Nat) : number (padded width n) = n := by
  have zeros (k : Nat) : number (List.replicate k '0') = 0 := by
    induction k with
    | zero => rfl
    | succ k ih => rw [List.replicate_succ', number_append_singleton, ih]; decide
  have split : number (padded width n) =
      (digits n).foldl (fun n c => 10 * n + digitValue c)
        (number (List.replicate (width - (digits n).length) '0')) := by
    simp only [padded, number, List.foldl_append]
  rw [split, zeros]
  exact number_digits n

/-- The decimal text of a number. -/
def decimal (n : Nat) : String := String.ofList (digits n)

/-- A hexadecimal digit in small letters. -/
def hexDigit (d : Nat) : Char := if d < 10 then digitChar d else Char.ofNat (87 + d)

end Questionnaire.Text
