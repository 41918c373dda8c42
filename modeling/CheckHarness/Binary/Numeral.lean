import CheckHarness.Binary.Rounding

/-!
# Numerals

The texts that denote a number.  A numeral has an optional sign.  Behind the sign
stand one of the words `inf`, `infinity` and `nan`, in any letter case, or digits
with an optional point, at least one digit in all, and an optional exponent.
Digits and letters are those of ASCII.

`Numeral.ofText?` reads a text.  `Binary.ofNumeral` gives the number of a format
it denotes, which keeps the sign also for zero.
-/

namespace CheckHarness

/-! ## Signs and digits -/

/-- An optional sign, as whether it is a minus, and the text behind it. -/
def splitSign : List Char → Bool × List Char
  | '-' :: rest => (true, rest)
  | '+' :: rest => (false, rest)
  | text => (false, text)

/-- The number a row of digits denotes, if there is at least one. -/
def digitsValue? (digits : List Char) : Option Nat :=
  if digits ≠ [] ∧ digits.all Char.isDigit then some (Nat.ofDigitChars 10 digits 0) else none

/-- An integer: an optional sign and digits. -/
def integerOfText? (text : List Char) : Option Int :=
  let (negative, rest) := splitSign text
  (digitsValue? rest).map fun n => if negative then -(n : Int) else n

/-! ## Numerals -/

/-- What a numeral denotes. -/
inductive Numeral where
  /-- The decimal `coefficient * 10 ^ exponent` under a sign. -/
  | finite (negative : Bool) (coefficient : Nat) (exponent : Int)
  | infinite (negative : Bool)
  | notANumber (negative : Bool)
deriving DecidableEq, Repr

namespace Numeral

/-- The exponent part of a decimal, which is zero when it is missing. -/
def exponentOfText? : List Char → Option Int
  | [] => some 0
  | mark :: rest => if mark.toLower = 'e' then integerOfText? rest else none

/-- The text behind the point, if there is a point, as its digits and what follows. -/
def splitFraction : List Char → List Char × List Char
  | '.' :: rest => (rest.takeWhile Char.isDigit, rest.dropWhile Char.isDigit)
  | text => ([], text)

/-- A decimal without its sign. -/
def decimalOfText? (negative : Bool) (text : List Char) : Option Numeral := do
  let whole := text.takeWhile Char.isDigit
  let (fraction, behindFraction) := splitFraction (text.dropWhile Char.isDigit)
  let coefficient ← digitsValue? (whole ++ fraction)
  let exponent ← exponentOfText? behindFraction
  return .finite negative coefficient (exponent - fraction.length)

/-- The numeral a text spells. -/
def ofText? (text : List Char) : Option Numeral :=
  let (negative, rest) := splitSign text
  let word := rest.map Char.toLower
  if word = "inf".toList ∨ word = "infinity".toList then some (.infinite negative)
  else if word = "nan".toList then some (.notANumber negative)
  else decimalOfText? negative rest

end Numeral

/-- The number of a format that a numeral denotes. -/
def Binary.ofNumeral (f : Format) : Numeral → Binary f
  | .finite negative coefficient exponent => ofDecimal f negative coefficient exponent
  | .infinite negative => infinity f negative
  | .notANumber negative => nan f negative

end CheckHarness
