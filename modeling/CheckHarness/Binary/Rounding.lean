import CheckHarness.Binary.Format

/-!
# Rounding to a binary format

A ratio of natural numbers is rounded to the nearest value of a format, and a
ratio halfway between two values to the one with the even magnitude.  The ratio
is first counted in units.  The quotient then keeps as many bits as a fraction
with its hidden bit has, and the dropped bits decide between the kept number
and the next.  A carry out of the fraction runs into the exponent field, which is
the right magnitude again.  From halfway between the greatest finite value and
the next step on the result is infinity.

A decimal `coefficient * 10 ^ exponent` is rounded once, to the format at hand.
Exponents far outside the format are settled first, so that no power larger than
the format needs is ever computed.
-/

namespace CheckHarness

-- A power of a natural number is the same power whatever else is imported.
attribute [local instance (high)] instPowNat

/-- The magnitude nearest to `num / den`, the even one of two nearest. -/
def Format.nearest (f : Format) (num den : Nat) : Nat :=
  let scaled := num * 2 ^ f.unitShift
  let dropped := (scaled / den).log2 - f.fractionBits
  let step := den * 2 ^ dropped
  let kept := scaled / step
  let rest := scaled % step
  let carry := if step < 2 * rest ∨ step = 2 * rest ∧ kept % 2 = 1 then 1 else 0
  min (dropped * 2 ^ f.fractionBits + kept + carry) f.infinity

/-- An exponent of ten that leads beyond the format on either side. -/
def Format.reach (f : Format) : Nat := 2 ^ f.exponentBits + f.fractionBits

namespace Binary

/-- The number of a sign and a ratio. -/
def ofRatio (f : Format) (negative : Bool) (num den : Nat) : Binary f where
  negative := negative
  magnitude := f.nearest num den
  magnitude_lt := Nat.lt_of_le_of_lt (Nat.min_le_right _ _) f.infinity_lt

/-- The number of a sign and the decimal `coefficient * 10 ^ exponent`. -/
def ofDecimal (f : Format) (negative : Bool) (coefficient : Nat) (exponent : Int) : Binary f :=
  if coefficient = 0 then zero f negative
  else
    match exponent with
    | .ofNat e =>
      if f.reach ≤ e then infinity f negative
      else ofRatio f negative (coefficient * 10 ^ e) 1
    | .negSucc e =>
      if coefficient.log2 + f.reach < 3 * (e + 1) then zero f negative
      else ofRatio f negative coefficient (10 ^ (e + 1))

/-- One divided by the number. -/
def reciprocal {f : Format} (x : Binary f) : Binary f :=
  if x.isNaN then x
  else if x.isZero then infinity f x.negative
  else if x.isInfinite then zero f x.negative
  else ofRatio f x.negative (2 ^ f.unitShift) (f.units x.magnitude)

end Binary

end CheckHarness
