import CheckHarness.Binary.Shortest

/-!
# How numbers are written

Numbers have two written forms, both with the shortest digits.

* The *diagnostic* form always tells a number from an integer.  It is positional,
  with at least one digit behind the point, while the first digit stands for a
  power of ten from -4 to 15.  Outside it is scientific: one digit, the others
  behind a point, and a bare exponent.
* The *plain* form is always positional and has a point only where digits follow.

Both keep the sign of zero, and write what is no number without a sign.
-/

namespace CheckHarness

namespace Decimal

/-- A row of zeros. -/
def zeros (n : Int) : List Char := List.replicate n.toNat '0'

/-- The decimal around its point: the digits of the whole part, and those behind. -/
def parts (d : Decimal) : List Char × List Char :=
  let digits := d.digits
  let point := digits.length + d.exponent
  if point ≤ 0 then (['0'], zeros (-point) ++ digits)
  else (digits.take point.toNat ++ zeros d.exponent, digits.drop point.toNat)

/-- Digits with a point, without a fraction when it is empty. -/
def plain (d : Decimal) : List Char :=
  let (whole, fraction) := d.parts
  if fraction = [] then whole else whole ++ '.' :: fraction

/-- Digits with a point, and at least one digit behind it. -/
def pointed (d : Decimal) : List Char :=
  let (whole, fraction) := d.parts
  whole ++ '.' :: (if fraction = [] then ['0'] else fraction)

/-- One digit, the others behind a point, and the power of ten of the first. -/
def scientific (d : Decimal) : List Char :=
  let exponent := 'e' :: (toString d.leading).toList
  match d.digits with
  | first :: second :: rest => first :: '.' :: second :: rest ++ exponent
  | digits => digits ++ exponent

/-- Whether the diagnostic form is positional. -/
def isModerate (d : Decimal) : Bool := -4 ≤ d.leading && d.leading ≤ 15

/-- The diagnostic form of a decimal. -/
def diagnostic (d : Decimal) : List Char := if d.isModerate then d.pointed else d.scientific

end Decimal

namespace Binary

variable {f : Format}

/-- A number in front of which its sign goes, around a way to write decimals. -/
def writeWith (write : Decimal → List Char) (x : Binary f) : String :=
  let sign := if x.negative then ['-'] else []
  if x.isNaN then "NaN"
  else if x.isInfinite then String.ofList (sign ++ "inf".toList)
  else String.ofList (sign ++ write x.shortest)

/-- The diagnostic form of a number. -/
def diagnostic (x : Binary f) : String := x.writeWith Decimal.diagnostic

/-- The plain form of a number. -/
def plain (x : Binary f) : String := x.writeWith Decimal.plain

end Binary

end CheckHarness
