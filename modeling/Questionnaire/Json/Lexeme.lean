import Questionnaire.Text.Digits

/-!
# Lexemes of JSON

The text of a document is split into marks, words, numbers and strings. Strings keep their escapes
of UTF-16 units, because a unit alone need not be a character, and numbers keep their digits,
because what a number may be depends on where it stands.

Main definitions:

* `Lexeme`, `StringPart`, `Numeral`.
* `lexemes?`: the lexemes of a text.
-/

namespace Questionnaire.Json

/-- A character of a string, or an escape of a UTF-16 unit. -/
inductive StringPart where
  | char (c : Char)
  | unit (n : Nat)
  deriving DecidableEq

/-- A number as it is written: its digits in front of the point, behind it and in the exponent. -/
structure Numeral where
  negative : Bool
  whole : List Char
  fraction : Option (List Char)
  exponent : Option (Bool × List Char)
  deriving DecidableEq

inductive Lexeme where
  | openBracket
  | closeBracket
  | openBrace
  | closeBrace
  | comma
  | colon
  | null
  | bool (value : Bool)
  | number (numeral : Numeral)
  | string (parts : List StringPart)
  deriving DecidableEq

/-- White space between lexemes. -/
def isSpace (c : Char) : Bool := c = ' ' || c = '\t' || c = '\n' || c = '\r'

/-! ## Strings -/

/-- The value of a hexadecimal digit. -/
def hexValue? (c : Char) : Option Nat :=
  if Text.isDigit c then some (c.toNat - 48)
  else if 'a' ≤ c && c ≤ 'f' then some (c.toNat - 87)
  else if 'A' ≤ c && c ≤ 'F' then some (c.toNat - 55)
  else none

/-- The UTF-16 unit of four hexadecimal digits. -/
def unit? (a b c d : Char) : Option Nat := do
  return (((← hexValue? a) * 16 + (← hexValue? b)) * 16 + (← hexValue? c)) * 16 + (← hexValue? d)

/-- The character behind a backslash. -/
def escaped? (c : Char) : Option Char :=
  if c = '\x22' || c = '\\' || c = '/' then some c
  else if c = 'b' then some '\x08'
  else if c = 'f' then some '\x0c'
  else if c = 'n' then some '\n'
  else if c = 'r' then some '\r'
  else if c = 't' then some '\t'
  else none

/-- Puts a part in front of those of a string. -/
def consPart (part : StringPart) (string : List StringPart × List Char) :
    List StringPart × List Char := (part :: string.1, string.2)

/-- The parts of a string up to its closing quote, and what follows it. Control characters must
be escaped. -/
def stringParts? : List Char → Option (List StringPart × List Char)
  | [] => none
  | '\x22' :: cs => some ([], cs)
  | '\\' :: 'u' :: a :: b :: c :: d :: cs =>
    (unit? a b c d).bind fun n => (stringParts? cs).map (consPart (.unit n))
  | '\\' :: c :: cs => (escaped? c).bind fun e => (stringParts? cs).map (consPart (.char e))
  | c :: cs =>
    if c = '\\' || c.toNat < 32 then none else (stringParts? cs).map (consPart (.char c))

/-! ## Numbers -/

/-- At least one digit, and what follows the digits. -/
def someDigits? (cs : List Char) : Option (List Char × List Char) :=
  match cs.takeWhile Text.isDigit with
  | [] => none
  | digits@(_ :: _) => some (digits, cs.dropWhile Text.isDigit)

/-- The digits of a whole number, which a zero ends. -/
def wholeDigits? : List Char → Option (List Char × List Char)
  | '0' :: cs => some (['0'], cs)
  | cs => someDigits? cs

/-- The digits behind a point, if there is one. -/
def fraction? : List Char → Option (Option (List Char) × List Char)
  | '.' :: cs => (someDigits? cs).map fun digits => (some digits.1, digits.2)
  | cs => some (none, cs)

/-- The sign and the digits behind an `e`, if there is one. -/
def exponent? : List Char → Option (Option (Bool × List Char) × List Char)
  | c :: cs =>
    if c = 'e' || c = 'E' then
      match cs with
      | '+' :: cs => (someDigits? cs).map fun digits => (some (false, digits.1), digits.2)
      | '-' :: cs => (someDigits? cs).map fun digits => (some (true, digits.1), digits.2)
      | cs => (someDigits? cs).map fun digits => (some (false, digits.1), digits.2)
    else some (none, c :: cs)
  | [] => some (none, [])

/-- A number behind its sign, and what follows it. -/
def numeral? (negative : Bool) (cs : List Char) : Option (Numeral × List Char) := do
  let whole ← wholeDigits? cs
  let fraction ← fraction? whole.2
  let exponent ← exponent? fraction.2
  return (⟨negative, whole.1, fraction.1, exponent.1⟩, exponent.2)

/-! ## Lexemes -/

/-- The lexeme at the start of a text. -/
def firstLexeme? : List Char → Option (Lexeme × List Char)
  | '[' :: cs => some (.openBracket, cs)
  | ']' :: cs => some (.closeBracket, cs)
  | '\x7b' :: cs => some (.openBrace, cs)
  | '\x7d' :: cs => some (.closeBrace, cs)
  | ',' :: cs => some (.comma, cs)
  | ':' :: cs => some (.colon, cs)
  | 'n' :: 'u' :: 'l' :: 'l' :: cs => some (.null, cs)
  | 't' :: 'r' :: 'u' :: 'e' :: cs => some (.bool true, cs)
  | 'f' :: 'a' :: 'l' :: 's' :: 'e' :: cs => some (.bool false, cs)
  | '\x22' :: cs => (stringParts? cs).map fun string => (.string string.1, string.2)
  | '-' :: cs => (numeral? true cs).map fun number => (.number number.1, number.2)
  | cs => (numeral? false cs).map fun number => (.number number.1, number.2)

/-- The lexemes of a text, looking at so many characters at most. -/
def lexemesWithin? : Nat → List Char → Option (List Lexeme)
  | _, [] => some []
  | 0, _ :: _ => none
  | fuel + 1, c :: cs =>
    if isSpace c then lexemesWithin? fuel cs
    else
      (firstLexeme? (c :: cs)).bind fun first =>
        (lexemesWithin? fuel first.2).map (first.1 :: ·)

/-- The lexemes of a text. Every lexeme takes a character at least, so the bound is never met. -/
def lexemes? (cs : List Char) : Option (List Lexeme) := lexemesWithin? cs.length cs

end Questionnaire.Json
