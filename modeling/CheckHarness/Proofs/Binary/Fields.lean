import CheckHarness.Binary.Format

/-!
# Fields of a number

The bits of a number are its sign, its exponent field and its fraction field.  The
magnitude is the last two.  `isNaN_iff` reads off the fields which patterns are no
number.

A format is *proper* when it has a bit of fraction and two bits of exponent.  Then
infinity is not zero, and there are patterns above infinity.  Both formats in use
are proper.
-/

namespace CheckHarness

-- A power of a natural number is the same power whatever else is imported.
attribute [local instance (high)] instPowNat

namespace Format

/-! ## Proper formats -/

/-- A format with room for subnormals, normals, infinity and more. -/
structure Proper (f : Format) : Prop where
  fraction : 1 ≤ f.fractionBits
  exponent : 2 ≤ f.exponentBits

theorem proper_single : single.Proper := ⟨by decide, by decide⟩

theorem proper_double : double.Proper := ⟨by decide, by decide⟩

variable {f : Format}

theorem two_pow_magnitudeBits (f : Format) :
    2 ^ f.magnitudeBits = 2 ^ f.fractionBits * 2 ^ f.exponentBits := by
  rw [magnitudeBits, Nat.pow_add]

theorem Proper.two_le_fraction (proper : f.Proper) : 2 ≤ 2 ^ f.fractionBits :=
  Nat.pow_le_pow_right (n := 2) (by decide) proper.fraction

theorem Proper.four_le_exponent (proper : f.Proper) : 4 ≤ 2 ^ f.exponentBits :=
  Nat.pow_le_pow_right (n := 2) (by decide) proper.exponent

theorem Proper.infinity_pos (proper : f.Proper) : 0 < f.infinity := by
  have exponent := proper.four_le_exponent
  exact Nat.mul_pos (by omega) (Nat.two_pow_pos _)

/-- Some pattern lies above infinity. -/
theorem Proper.infinity_lt_last (proper : f.Proper) : f.infinity < 2 ^ f.magnitudeBits - 1 := by
  have fraction := proper.two_le_fraction
  have exponent := proper.four_le_exponent
  rw [infinity, two_pow_magnitudeBits, Nat.sub_mul, Nat.one_mul, Nat.mul_comm]
  have room := Nat.mul_le_mul_left (2 ^ f.fractionBits) exponent
  omega

end Format

namespace Binary

variable {f : Format}

/-! ## Patterns that are no number -/

/-- The exponent field of some bits. -/
def exponentField (f : Format) (bits : Nat) : Nat :=
  bits / 2 ^ f.fractionBits % 2 ^ f.exponentBits

/-- The fraction field of some bits. -/
def fractionField (f : Format) (bits : Nat) : Nat := bits % 2 ^ f.fractionBits

/-- The bits are no number: the exponent is all ones and the fraction is not zero. -/
def NoNumber (f : Format) (bits : Nat) : Prop :=
  exponentField f bits = 2 ^ f.exponentBits - 1 ∧ fractionField f bits ≠ 0

instance {bits : Nat} : Decidable (NoNumber f bits) :=
  inferInstanceAs (Decidable (_ ∧ _))

/-- The sign is above the exponent field. -/
theorem exponentField_toBits (x : Binary f) :
    exponentField f x.toBits = x.magnitude / 2 ^ f.fractionBits := by
  have fraction := Nat.two_pow_pos f.fractionBits
  have below : x.magnitude / 2 ^ f.fractionBits < 2 ^ f.exponentBits :=
    Nat.div_lt_of_lt_mul (Format.two_pow_magnitudeBits f ▸ x.magnitude_lt)
  cases negative : x.negative with
  | false => simp [exponentField, toBits, negative, Nat.mod_eq_of_lt below]
  | true =>
      rw [exponentField, toBits, negative, if_pos rfl, Format.two_pow_magnitudeBits,
        Nat.mul_add_div fraction, Nat.add_mod_left, Nat.mod_eq_of_lt below]

theorem fractionField_toBits (x : Binary f) :
    fractionField f x.toBits = x.magnitude % 2 ^ f.fractionBits := by
  cases negative : x.negative with
  | false => simp [fractionField, toBits, negative]
  | true =>
      rw [fractionField, toBits, negative, if_pos rfl, Format.two_pow_magnitudeBits,
        Nat.mul_add_mod]

/-- What lies above infinity is what the fields say is no number. -/
theorem isNaN_iff (x : Binary f) : x.isNaN = true ↔ NoNumber f x.toBits := by
  rw [NoNumber, exponentField_toBits, fractionField_toBits, isNaN, decide_eq_true_iff,
    Format.infinity]
  have fraction := Nat.two_pow_pos f.fractionBits
  have below : x.magnitude / 2 ^ f.fractionBits < 2 ^ f.exponentBits :=
    Nat.div_lt_of_lt_mul (Format.two_pow_magnitudeBits f ▸ x.magnitude_lt)
  have fields := Nat.div_add_mod' x.magnitude (2 ^ f.fractionBits)
  constructor
  · intro above
    have top : 2 ^ f.exponentBits - 1 ≤ x.magnitude / 2 ^ f.fractionBits :=
      (Nat.le_div_iff_mul_le fraction).mpr (Nat.le_of_lt above)
    have exponent : x.magnitude / 2 ^ f.fractionBits = 2 ^ f.exponentBits - 1 := by omega
    rw [exponent] at fields
    exact ⟨exponent, by omega⟩
  · rintro ⟨exponent, rest⟩
    rw [exponent] at fields
    omega

/-! ## Numbers -/

theorem toBits_injective {x y : Binary f} (same : x.toBits = y.toBits) : x = y := by
  rw [← ofBits_toBits x, ← ofBits_toBits y, same]

theorem eq_infinity {x : Binary f} (magnitude : x.magnitude = f.infinity) :
    x = infinity f x.negative := by
  simp only [infinity, ← magnitude]

theorem eq_zero {x : Binary f} (magnitude : x.magnitude = 0) : x = zero f x.negative := by
  simp only [zero, ← magnitude]

@[simp] theorem isNaN_zero (negative : Bool) : (zero f negative).isNaN = false := by
  simp [isNaN, zero]

@[simp] theorem isNaN_infinity (negative : Bool) : (infinity f negative).isNaN = false := by
  simp [isNaN, infinity]

theorem isNaN_nan (proper : f.Proper) (negative : Bool) : (nan f negative).isNaN = true :=
  decide_eq_true proper.infinity_lt_last

theorem not_isNaN_of_isZero {x : Binary f} (zero : x.isZero = true) : x.isNaN = false := by
  rw [isZero, beq_iff_eq] at zero
  simp [isNaN, zero]

end Binary

end CheckHarness
