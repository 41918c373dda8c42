/-!
# Binary formats

A number of a binary format is a sign and a *magnitude*: the exponent field and
the fraction field, read as one natural number.  Magnitudes count upward through
the subnormals, the normals, the infinity and the patterns that are no number,
so a greater magnitude is a greater value as long as both are finite.

Every finite value is a whole number of *units*.  The unit is the least positive
value of the format, `2 ^ -unitShift`.  So all arithmetic on values below is
arithmetic on natural numbers: `Format.units` takes a magnitude to its units.

Two comparisons are kept apart.  Equality of the structure is equality of bits.
`Binary.numericEq` compares as numbers do: both zeros are equal, and what is no
number equals nothing.
-/

namespace CheckHarness

-- A power of a natural number is the same power whatever else is imported.
attribute [local instance (high)] instPowNat

/-! ## Formats -/

/-- A binary interchange format. -/
structure Format where
  /-- Bits of the fraction field. -/
  fractionBits : Nat
  /-- Bits of the exponent field. -/
  exponentBits : Nat
deriving DecidableEq, Repr

namespace Format

/-- The format of 32 bits. -/
def single : Format := ⟨23, 8⟩

/-- The format of 64 bits. -/
def double : Format := ⟨52, 11⟩

/-- Bits below the sign. -/
def magnitudeBits (f : Format) : Nat := f.fractionBits + f.exponentBits

/-- The magnitude of infinity: an exponent field of ones over an empty fraction. -/
def infinity (f : Format) : Nat := (2 ^ f.exponentBits - 1) * 2 ^ f.fractionBits

/-- The unit of the format is `2 ^ -unitShift`. -/
def unitShift (f : Format) : Nat := 2 ^ (f.exponentBits - 1) - 2 + f.fractionBits

/-- The value of a magnitude, counted in units.  Below the first normal magnitude
it is the fraction itself.  From there on the fraction gains its hidden bit and
each step of the exponent field doubles. -/
def units (f : Format) (magnitude : Nat) : Nat :=
  if magnitude < 2 ^ f.fractionBits then magnitude
  else
    (2 ^ f.fractionBits + magnitude % 2 ^ f.fractionBits) *
      2 ^ (magnitude / 2 ^ f.fractionBits - 1)

theorem infinity_lt (f : Format) : f.infinity < 2 ^ f.magnitudeBits := by
  have he := Nat.two_pow_pos f.exponentBits
  have hf := Nat.two_pow_pos f.fractionBits
  rw [magnitudeBits, Nat.add_comm, Nat.pow_add]
  exact Nat.mul_lt_mul_of_pos_right (Nat.sub_lt he Nat.one_pos) hf

@[simp] theorem units_zero (f : Format) : f.units 0 = 0 := by
  simp [units]

end Format

/-! ## Numbers -/

/-- A number of a binary format, or one of the patterns that are no number. -/
structure Binary (f : Format) where
  /-- The sign bit. -/
  negative : Bool
  /-- Exponent and fraction. -/
  magnitude : Nat
  magnitude_lt : magnitude < 2 ^ f.magnitudeBits
deriving DecidableEq

/-- Numbers of 32 bits. -/
abbrev Single := Binary Format.single

/-- Numbers of 64 bits. -/
abbrev Double := Binary Format.double

namespace Binary

variable {f : Format}

/-- The bits as one natural number, the sign on top. -/
def toBits (x : Binary f) : Nat :=
  (if x.negative then 2 ^ f.magnitudeBits else 0) + x.magnitude

/-- The number with the given bits.  Bits above the sign are ignored. -/
def ofBits (f : Format) (bits : Nat) : Binary f where
  negative := bits.testBit f.magnitudeBits
  magnitude := bits % 2 ^ f.magnitudeBits
  magnitude_lt := Nat.mod_lt _ (Nat.two_pow_pos _)

/-- Zero, with a sign. -/
def zero (f : Format) (negative : Bool) : Binary f where
  negative := negative
  magnitude := 0
  magnitude_lt := Nat.two_pow_pos _

/-- Infinity, with a sign. -/
def infinity (f : Format) (negative : Bool) : Binary f where
  negative := negative
  magnitude := f.infinity
  magnitude_lt := f.infinity_lt

/-- The last pattern of a sign, which is no number. -/
def nan (f : Format) (negative : Bool) : Binary f where
  negative := negative
  magnitude := 2 ^ f.magnitudeBits - 1
  magnitude_lt := Nat.sub_lt (Nat.two_pow_pos _) Nat.one_pos

/-- Whether the pattern is no number. -/
def isNaN (x : Binary f) : Bool := f.infinity < x.magnitude

/-- Whether the number is infinite. -/
def isInfinite (x : Binary f) : Bool := x.magnitude == f.infinity

/-- Whether the number is one of the zeros. -/
def isZero (x : Binary f) : Bool := x.magnitude == 0

/-- Equality of numbers: the zeros are equal, and what is no number equals nothing. -/
def numericEq (x y : Binary f) : Bool :=
  !x.isNaN && !y.isNaN && (x.isZero && y.isZero || decide (x = y))

theorem toBits_ofBits {bits : Nat} (h : bits < 2 ^ (f.magnitudeBits + 1)) :
    (ofBits f bits).toBits = bits := by
  simp only [toBits, ofBits, Nat.testBit_eq_decide_div_mod_eq, decide_eq_true_eq]
  rw [Nat.pow_succ] at h
  generalize 2 ^ f.magnitudeBits = p at h ⊢
  have hd := Nat.div_add_mod bits p
  have hq : bits / p < 2 := Nat.div_lt_of_lt_mul h
  cases hb : bits / p with
  | zero => simp_all
  | succ n =>
    have : n = 0 := by omega
    simp_all

theorem ofBits_toBits (x : Binary f) : ofBits f x.toBits = x := by
  obtain ⟨negative, magnitude, h⟩ := x
  have hp := Nat.two_pow_pos f.magnitudeBits
  cases negative with
  | false => simp [ofBits, toBits, Nat.testBit_lt_two_pow h, Nat.mod_eq_of_lt h]
  | true =>
    simp [ofBits, toBits, Nat.mod_eq_of_lt h, Nat.testBit_eq_decide_div_mod_eq,
      Nat.add_div_left _ hp, Nat.div_eq_of_lt h]

end Binary

end CheckHarness
