/-!
# Digits of a base

The value of a row of digits.  A letter is a digit above nine, in either case.
-/

namespace CheckHarness.Radix

/-- The value of a digit of base 16 or less. -/
def digit? (c : Char) : Option Nat :=
  let n := c.toNat
  if c.isDigit then some (n - 48)
  else if 'a' ≤ c ∧ c ≤ 'f' then some (n - 87)
  else if 'A' ≤ c ∧ c ≤ 'F' then some (n - 55)
  else none

/-- The value of a row of digits of a base, if each is one. -/
def value? (base : Nat) (digits : List Char) : Option Nat :=
  digits.foldlM (fun value c => do
    let digit ← digit? c
    guard (digit < base)
    return base * value + digit) 0

end CheckHarness.Radix
