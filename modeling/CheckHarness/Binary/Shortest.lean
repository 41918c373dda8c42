import CheckHarness.Binary.Rounding

/-!
# Shortest digits

A finite number is written with the fewest significant digits that read back as
the same number.  For each count of digits in turn the value lies between two
neighbours on the grid of decimals with that many digits.  The first count for
which a neighbour reads back is taken.  If both neighbours read back the nearer
one is, and the upper one of two equally near.

The search stops after seventeen digits, which is enough for both formats in use.
A number beyond that would be written exactly, so `Binary.shortest` always gives
digits that read back.
-/

namespace CheckHarness

-- A power of a natural number is the same power whatever else is imported.
attribute [local instance (high)] instPowNat

/-- The decimal `coefficient * 10 ^ exponent`. -/
structure Decimal where
  coefficient : Nat
  exponent : Int
deriving DecidableEq, Repr

namespace Decimal

/-- The digits of the coefficient. -/
def digits (d : Decimal) : List Char := Nat.toDigits 10 d.coefficient

/-- The power of ten of the first digit. -/
def leading (d : Decimal) : Int := d.exponent + d.digits.length - 1

/-- The same decimal without trailing zeros.  At most `fuel` of them are dropped. -/
def strip : (fuel : Nat) → Decimal → Decimal
  | 0, d => d
  | fuel + 1, d =>
    if d.coefficient ≠ 0 ∧ d.coefficient % 10 = 0 then
      strip fuel ⟨d.coefficient / 10, d.exponent + 1⟩
    else d

/-- The same decimal with no trailing zeros left. -/
def normal (d : Decimal) : Decimal := d.strip d.coefficient.log2

end Decimal

/-- The number of decimal digits. -/
def decimalLength (n : Nat) : Nat := (Nat.toDigits 10 n).length

/-- The least power of ten above `num / den`, for a positive ratio. -/
def powerAbove (num den : Nat) : Int :=
  if den ≤ num then decimalLength (num / den) else 1 - (decimalLength ((den - 1) / num) : Int)

namespace Binary

variable {f : Format}

/-- Whether a decimal reads back as the number. -/
def readsAs (x : Binary f) (d : Decimal) : Bool :=
  ofDecimal f x.negative d.coefficient d.exponent = x

/-- The value without its sign, as the units over their count in one. -/
def ratio (x : Binary f) : Nat × Nat := (f.units x.magnitude, 2 ^ f.unitShift)

/-- The exact decimal of a finite number. -/
def exact (x : Binary f) : Decimal :=
  ⟨f.units x.magnitude * 5 ^ f.unitShift, -(f.unitShift : Int)⟩

/-- The better neighbour on the grid of multiples of `10 ^ exponent`, if one reads back. -/
def onGrid (x : Binary f) (exponent : Int) : Option Decimal :=
  let (num, den) := x.ratio
  let num := num * 10 ^ (-exponent).toNat
  let den := den * 10 ^ exponent.toNat
  let below : Decimal := ⟨num / den, exponent⟩
  let above : Decimal := ⟨num / den + 1, exponent⟩
  match x.readsAs below, x.readsAs above with
  | true, true => if 2 * (num % den) < den then some below else some above
  | true, false => some below
  | false, true => some above
  | false, false => none

/-- The shortest decimal that reads back as a finite number. -/
def shortest (x : Binary f) : Decimal :=
  if x.isZero then ⟨0, 0⟩
  else
    let top := powerAbove x.ratio.1 x.ratio.2
    let found := (List.range 17).findSome? fun n => x.onGrid (top - (n + 1 : Nat))
    (found.getD x.exact).normal

end Binary

end CheckHarness
