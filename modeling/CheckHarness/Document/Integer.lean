import CheckHarness.Binary.Numeral
import CheckHarness.Document.Text

/-!
# Integers in a document

An integer is decimal, with an optional sign and no needless zero in front, or it
has one of the prefixes `0x`, `0o` and `0b` and no sign.  An underscore may stand
between two digits.
-/

namespace CheckHarness.Document

/-- Whether every underscore stands between two digits, and there is a digit. -/
def isSpaced : List Char → Bool
  | [] => false
  | [c] => c ≠ '_'
  | c :: d :: rest => c ≠ '_' && (if d = '_' then isSpaced rest else isSpaced (d :: rest))

/-- The value of digits of a base between which underscores may stand. -/
def spacedValue? (base : Nat) (digits : List Char) : Option Nat :=
  if isSpaced digits then Radix.value? base (digits.filter (· ≠ '_')) else none

/-- A decimal integer without its sign. -/
def decimalValue? (digits : List Char) : Option Nat :=
  if digits.head? = some '0' ∧ digits ≠ ['0'] then none else spacedValue? 10 digits

/-- The integer a token spells. -/
def integerOfToken? : List Char → Option Int
  | '0' :: 'x' :: digits => (spacedValue? 16 digits).map Int.ofNat
  | '0' :: 'o' :: digits => (spacedValue? 8 digits).map Int.ofNat
  | '0' :: 'b' :: digits => (spacedValue? 2 digits).map Int.ofNat
  | token =>
    let (negative, digits) := splitSign token
    (decimalValue? digits).map fun n => if negative then -(n : Int) else n

/-- Whether a character may stand in the token of an integer. -/
def isTokenChar (c : Char) : Bool := c.isAlphanum || c = '_' || c = '+' || c = '-'

/-- An integer, with what follows.  It has to fit into 64 bits. -/
def integer? (text : List Char) : Option (Int × List Char) := do
  let n ← integerOfToken? (text.takeWhile isTokenChar)
  guard (Int64.minValue.toInt ≤ n ∧ n ≤ Int64.maxValue.toInt)
  return (n, text.dropWhile isTokenChar)

end CheckHarness.Document
