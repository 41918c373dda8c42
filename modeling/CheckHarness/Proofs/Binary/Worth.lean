import CheckHarness.Proofs.Binary.Nearest

/-!
# What numbers are worth

The fields of a finite number say what it is worth (`worth`).  An exponent field of zero
means that there is no hidden bit.  In units this is what the magnitude counts
(`worth_eq`), so facts on magnitudes are facts on numbers.

`Rounds` says that a number is the right one for a rational value and a sign: the nearest,
the even one of two nearest, infinity from halfway behind the greatest finite number on,
and under the sign in each case.  Rounding gives the magnitude closest to a value, but for
the upper end (`Approaches`), and each part of `Rounds` follows from that.
`rounds_ofDecimal` is the law of rounding: a decimal of any size is rounded right, and only
once.
-/

namespace CheckHarness

-- A power of a natural number is the same power whatever else is imported.
attribute [local instance (high)] instPowNat

/-! ## The ends of a format -/

namespace Format

/-- The exponent field of one. -/
def bias (f : Format) : Nat := 2 ^ (f.exponentBits - 1) - 1

/-- The least positive value. -/
def leastPositive (f : Format) : ℚ := 2 ^ (1 - f.bias - f.fractionBits : ℤ)

/-- Halfway between the greatest value without a hidden bit and the least one with it. -/
def leastNormalHalfway (f : Format) : ℚ := (2 ^ f.fractionBits - 1 / 2) * f.leastPositive

/-- Halfway between the greatest finite value and the next power of two. -/
def overflow (f : Format) : ℚ := (2 - 1 / 2 ^ (f.fractionBits + 1)) * 2 ^ f.bias

variable {f : Format}

theorem Proper.two_pow_exponentBits (proper : f.Proper) :
    2 ^ f.exponentBits = 2 * (f.bias + 1) ∧ 1 ≤ f.bias := by
  have exponent := proper.exponent
  have half : 2 ^ 1 ≤ 2 ^ (f.exponentBits - 1) := Nat.pow_le_pow_right (by decide) (by omega)
  have double : 2 ^ f.exponentBits = 2 ^ (f.exponentBits - 1) * 2 := by
    rw [← Nat.pow_succ, Nat.succ_eq_add_one, Nat.sub_add_cancel (by omega)]
  rw [bias]
  omega

theorem unitShift_eq (f : Format) : f.unitShift = f.bias - 1 + f.fractionBits := by
  rw [unitShift, bias]
  omega

/-- How many units one is. -/
def unitsOfOne (f : Format) : ℚ := (2 ^ f.unitShift : Nat)

theorem unitsOfOne_eq (f : Format) : f.unitsOfOne = 2 ^ f.unitShift := by
  rw [unitsOfOne]
  push_cast
  rfl

theorem unitsOfOne_pos (f : Format) : 0 < f.unitsOfOne := by
  rw [unitsOfOne_eq]
  positivity

/-- The least positive value is one unit. -/
theorem Proper.leastPositive_eq (proper : f.Proper) : f.leastPositive = 1 / f.unitsOfOne := by
  obtain ⟨-, pos⟩ := proper.two_pow_exponentBits
  have shift : (1 - f.bias - f.fractionBits : ℤ) = -(f.unitShift : ℤ) := by
    rw [unitShift_eq]
    omega
  rw [leastPositive, shift, zpow_neg, zpow_natCast, one_div, unitsOfOne_eq]

/-- Infinity is the next step behind the greatest finite magnitude. -/
theorem Proper.infinity_eq (proper : f.Proper) :
    f.infinity = (2 * f.bias - 1) * 2 ^ f.fractionBits + 2 ^ (f.fractionBits + 1) := by
  obtain ⟨exponents, pos⟩ := proper.two_pow_exponentBits
  have last : 2 ^ f.exponentBits - 1 = (2 * f.bias - 1) + 2 := by omega
  rw [infinity, last, Nat.add_mul, Nat.pow_succ, Nat.mul_comm 2 (2 ^ f.fractionBits)]

theorem Proper.overflowUnits_eq (proper : f.Proper) :
    f.overflowUnits = f.overflow * f.unitsOfOne := by
  obtain ⟨-, pos⟩ := proper.two_pow_exponentBits
  have kept := Nat.two_pow_pos (f.fractionBits + 1)
  have double := Nat.pow_succ 2 f.fractionBits
  have next : OnStep f (2 * f.bias - 1) (2 ^ (f.fractionBits + 1)) :=
    ⟨Nat.le_refl _, Or.inr (by omega)⟩
  have last : OnStep f (2 * f.bias - 1) (2 ^ (f.fractionBits + 1) - 1) :=
    ⟨by omega, Or.inr (by omega)⟩
  have greatest : f.infinity - 1 =
      (2 * f.bias - 1) * 2 ^ f.fractionBits + (2 ^ (f.fractionBits + 1) - 1) := by
    rw [proper.infinity_eq]
    omega
  have step : 2 ^ (f.fractionBits + 1) - 1 + 1 = 2 ^ (f.fractionBits + 1) := by omega
  have powers : (2 : ℚ) ^ f.bias * 2 ^ f.unitShift = 2 ^ (2 * f.bias - 1) * 2 ^ f.fractionBits := by
    rw [← pow_add, ← pow_add, unitShift_eq]
    congr 1
    omega
  rw [overflowUnits, halfway, greatest, Nat.add_assoc, step, units_of_onStep last,
    units_of_onStep next, overflow, unitsOfOne_eq, mul_assoc, powers]
  push_cast [Nat.cast_sub kept]
  field_simp
  ring

/-- Where a hidden bit starts, in units. -/
theorem Proper.leastNormalHalfway_eq (proper : f.Proper) :
    halfway (fun m => (f.units m : ℚ)) (2 ^ f.fractionBits - 1) =
      f.leastNormalHalfway * f.unitsOfOne := by
  have pos := Nat.two_pow_pos f.fractionBits
  have double := Nat.pow_succ 2 f.fractionBits
  have below : 2 ^ f.fractionBits - 1 < 2 ^ f.fractionBits := by omega
  have step : 2 ^ f.fractionBits - 1 + 1 = 2 ^ f.fractionBits := by omega
  have next : OnStep f 0 (2 ^ f.fractionBits) := ⟨by omega, Or.inl rfl⟩
  have first := units_of_onStep next
  rw [Nat.zero_mul, Nat.zero_add, Nat.pow_zero, Nat.mul_one] at first
  have one := ne_of_gt f.unitsOfOne_pos
  rw [halfway, step, first, units_of_lt below, leastNormalHalfway, proper.leastPositive_eq]
  push_cast [Nat.cast_sub pos]
  field_simp
  ring

/-- Half of the least positive value, in units. -/
theorem Proper.halfway_zero (proper : f.Proper) :
    halfway (fun m => (f.units m : ℚ)) 0 = f.leastPositive / 2 * f.unitsOfOne := by
  have one := ne_of_gt f.unitsOfOne_pos
  have first : 0 + 1 < 2 ^ f.fractionBits := proper.two_le_fraction
  rw [halfway, units_zero, units_of_lt first, proper.leastPositive_eq]
  push_cast
  field_simp
  norm_num

theorem Proper.two_pow_lt_infinity (proper : f.Proper) : 2 ^ f.fractionBits < f.infinity := by
  have exponent := proper.four_le_exponent
  have many := Nat.mul_le_mul_right (2 ^ f.fractionBits) (show 2 ≤ 2 ^ f.exponentBits - 1 by omega)
  have fraction := Nat.two_pow_pos f.fractionBits
  rw [infinity]
  omega

end Format

namespace Binary

variable {f : Format}

/-! ## Values from fields -/

/-- The value without its sign.  Numbers with an exponent field have a hidden bit. -/
def worth (x : Binary f) : ℚ :=
  if exponentField f x.toBits = 0 then
    fractionField f x.toBits / 2 ^ f.fractionBits * 2 ^ (1 - f.bias : ℤ)
  else
    (1 + fractionField f x.toBits / 2 ^ f.fractionBits) *
      2 ^ (exponentField f x.toBits - f.bias : ℤ)

/-- A value under a sign. -/
def underSign (negative : Bool) (r : ℚ) : ℚ := if negative then -r else r

/-- The value of a number. -/
def value (x : Binary f) : ℚ := underSign x.negative x.worth

/-- The exponent field is not all ones. -/
def Finite (x : Binary f) : Prop := exponentField f x.toBits ≠ 2 ^ f.exponentBits - 1

theorem exponentField_lt_iff (x : Binary f) (n : Nat) :
    exponentField f x.toBits < n ↔ x.magnitude < n * 2 ^ f.fractionBits := by
  rw [exponentField_toBits, Nat.div_lt_iff_lt_mul (Nat.two_pow_pos _)]

theorem exponentField_eq_zero_iff (x : Binary f) :
    exponentField f x.toBits = 0 ↔ x.magnitude < 2 ^ f.fractionBits := by
  rw [← Nat.lt_one_iff, exponentField_lt_iff, Nat.one_mul]

theorem finite_of_lt {x : Binary f} (below : x.magnitude < f.infinity) : x.Finite :=
  Nat.ne_of_lt ((x.exponentField_lt_iff _).mpr below)

/-- What a number is worth is what its magnitude counts. -/
theorem worth_eq (proper : f.Proper) (x : Binary f) :
    x.worth = f.units x.magnitude / f.unitsOfOne := by
  obtain ⟨-, pos⟩ := proper.two_pow_exponentBits
  have two : (2 : ℚ) ≠ 0 := by norm_num
  have shift := f.unitShift_eq
  rw [worth, Format.unitsOfOne_eq]
  split
  · rename_i none
    have below := x.exponentField_eq_zero_iff.mp none
    have exponent : (1 - f.bias : ℤ) = (f.fractionBits : ℤ) - f.unitShift := by omega
    rw [Format.units_of_lt below, fractionField_toBits, Nat.mod_eq_of_lt below, exponent,
      zpow_sub₀ two, zpow_natCast, zpow_natCast]
    field_simp
  · rename_i some
    have above : 2 ^ f.fractionBits ≤ x.magnitude :=
      Nat.le_of_not_lt fun below => some (x.exponentField_eq_zero_iff.mpr below)
    rw [exponentField_toBits] at some
    have exponent : ((x.magnitude / 2 ^ f.fractionBits : Nat) - f.bias : ℤ) =
        (x.magnitude / 2 ^ f.fractionBits - 1 : Nat) + (f.fractionBits : ℤ) - f.unitShift := by
      generalize x.magnitude / 2 ^ f.fractionBits = field at some
      omega
    rw [Format.units_of_le above, exponentField_toBits, fractionField_toBits, exponent,
      zpow_sub₀ two, zpow_add₀ two, zpow_natCast, zpow_natCast, zpow_natCast]
    push_cast
    field_simp

theorem worth_nonneg (proper : f.Proper) (x : Binary f) : 0 ≤ x.worth := by
  have one := f.unitsOfOne_pos
  rw [worth_eq proper]
  positivity

/-! ## Signs -/

theorem abs_underSign (negative : Bool) {r : ℚ} (nonneg : 0 ≤ r) : |underSign negative r| = r := by
  rw [underSign]
  split
  · rw [abs_neg, abs_of_nonneg nonneg]
  · exact abs_of_nonneg nonneg

theorem abs_value (proper : f.Proper) (x : Binary f) : |x.value| = x.worth :=
  abs_underSign x.negative (x.worth_nonneg proper)

/-- Under one sign values are as far from each other as without it. -/
theorem abs_underSign_sub (negative : Bool) (r r' : ℚ) :
    |underSign negative r - underSign negative r'| = |r - r'| := by
  rw [underSign, underSign]
  split
  · rw [← abs_neg]
    congr 1
    ring
  · rfl

/-- Under any sign a number is at least as far from a value as without it. -/
theorem abs_worth_sub_le (proper : f.Proper) (y : Binary f) (negative : Bool) {r : ℚ}
    (nonneg : 0 ≤ r) : |y.worth - r| ≤ |y.value - underSign negative r| := by
  have apart := abs_abs_sub_abs_le y.value (underSign negative r)
  rwa [abs_value proper, abs_underSign negative nonneg] at apart

/-! ## Rounding -/

/-- A number is a rational value rounded, under a sign. -/
structure Rounds (x : Binary f) (negative : Bool) (q : ℚ) : Prop where
  sign : x.negative = negative
  /-- Infinity takes the place of everything from halfway behind the last number on. -/
  infinite : f.overflow ≤ |q| → x = infinity f negative
  finite : |q| < f.overflow → x.Finite
  /-- No number is nearer. -/
  nearest : |q| < f.overflow → ∀ y : Binary f, y.Finite → |x.value - q| ≤ |y.value - q|
  /-- Of two nearest values the one with an even fraction is taken. -/
  even : |q| < f.overflow → ∀ y : Binary f, y.Finite → y.value ≠ x.value →
    |y.value - q| = |x.value - q| → fractionField f x.toBits % 2 = 0
  /-- The hidden bit is missing below halfway to the first number that has it. -/
  subnormal : exponentField f x.toBits = 0 ↔ |q| < f.leastNormalHalfway
  /-- Zero takes the place of everything up to half of the least positive number. -/
  zero : x = zero f negative ↔ |q| ≤ f.leastPositive / 2

/-! ## Closest magnitudes -/

section Closest

variable {x : Binary f} {r : ℚ}

/-- Distances of magnitudes and of numbers differ by the size of a unit. -/
theorem distance_units (proper : f.Proper) (y : Binary f) (r : ℚ) :
    |(f.units y.magnitude : ℚ) - r * f.unitsOfOne| = |y.worth - r| * f.unitsOfOne := by
  have one := f.unitsOfOne_pos
  have units : (f.units y.magnitude : ℚ) = y.worth * f.unitsOfOne := by
    rw [y.worth_eq proper]
    field_simp
  rw [units, ← sub_mul, abs_mul, abs_of_pos one]

/-- The number of a closest magnitude is worth what is nearest. -/
theorem distance_le_of_closest (proper : f.Proper)
    (closest : Closest (fun m => (f.units m : ℚ)) (r * f.unitsOfOne) x.magnitude)
    (y : Binary f) : |x.worth - r| ≤ |y.worth - r| := by
  have le := closest.le y.magnitude
  simp only [distance_units proper] at le
  exact le_of_mul_le_mul_right le f.unitsOfOne_pos

theorem even_of_closest (proper : f.Proper)
    (closest : Closest (fun m => (f.units m : ℚ)) (r * f.unitsOfOne) x.magnitude)
    {y : Binary f} (other : y.magnitude ≠ x.magnitude) (tie : |y.worth - r| = |x.worth - r|) :
    fractionField f x.toBits % 2 = 0 := by
  have even := closest.even y.magnitude other
  simp only [distance_units proper, tie, true_implies] at even
  have two : 2 ∣ 2 ^ f.fractionBits := dvd_pow_self 2 (Nat.ne_of_gt proper.fraction)
  rw [fractionField_toBits, Nat.mod_mod_of_dvd _ two, even]

/-- What is closest to nothing is worth nothing. -/
theorem worth_eq_zero_of_closest (proper : f.Proper)
    (closest : Closest (fun m => (f.units m : ℚ)) (0 * f.unitsOfOne) x.magnitude) :
    x.worth = 0 := by
  have le := distance_le_of_closest proper closest (zero f false)
  have none : (zero f false).worth = 0 := by
    rw [worth_eq proper, show (zero f false).magnitude = 0 from rfl, Format.units_zero]
    simp
  rw [none] at le
  simpa using le

/-- Of two nearest values the even one is taken.  Numbers of one magnitude are as near to a
value only if both are worth nothing. -/
theorem even_of_closest_value (proper : f.Proper) (nonneg : 0 ≤ r)
    (closest : Closest (fun m => (f.units m : ℚ)) (r * f.unitsOfOne) x.magnitude)
    {y : Binary f} (other : y.value ≠ x.value)
    (tie : |y.value - underSign x.negative r| = |x.value - underSign x.negative r|) :
    fractionField f x.toBits % 2 = 0 := by
  have here : |x.value - underSign x.negative r| = |x.worth - r| :=
    abs_underSign_sub x.negative x.worth r
  have there := abs_worth_sub_le proper y x.negative nonneg
  have equal : |y.worth - r| = |x.worth - r| :=
    le_antisymm (there.trans_eq (tie.trans here)) (distance_le_of_closest proper closest y)
  refine even_of_closest proper closest ?_ equal
  intro same
  have worth : y.worth = x.worth := by rw [worth_eq proper, worth_eq proper, same]
  have opposite : y.value = -x.value := by
    have signs : y.negative ≠ x.negative := by
      intro signs
      rw [value, value, signs, worth] at other
      exact other rfl
    rw [value, value, worth, Bool.eq_not_of_ne signs]
    cases x.negative <;> simp [underSign]
  rw [opposite] at tie other
  have nothing : x.value = 0 ∨ underSign x.negative r = 0 := by
    rcases abs_eq_abs.mp tie with equal | equal
    · exact Or.inl (by linarith)
    · exact Or.inr (by linarith)
  have none : x.value = 0 := by
    refine nothing.elim id fun zero => ?_
    rw [← abs_underSign x.negative nonneg, zero, abs_zero] at closest
    rw [value, worth_eq_zero_of_closest proper closest, underSign, neg_zero, ite_self]
  rw [none, neg_zero] at other
  exact other rfl

end Closest

/-! ## Rounded values -/

/-- The magnitude is the closest one to a value, or infinity in place of one beyond it. -/
def Approaches (x : Binary f) (r : ℚ) : Prop :=
  ∃ m, Closest (fun m => (f.units m : ℚ)) (r * f.unitsOfOne) m ∧ x.magnitude = min m f.infinity

namespace Approaches

variable {x : Binary f} {r : ℚ}

/-- Before the overflow the magnitude is the closest one. -/
theorem closest (proper : f.Proper) (approaches : x.Approaches r) (below : r < f.overflow) :
    Closest (fun m => (f.units m : ℚ)) (r * f.unitsOfOne) x.magnitude ∧
      x.magnitude < f.infinity := by
  obtain ⟨m, closest, magnitude⟩ := approaches
  have beyond := Format.infinity_le_iff proper closest
  rw [proper.overflowUnits_eq, mul_le_mul_iff_of_pos_right f.unitsOfOne_pos] at beyond
  have within : m < f.infinity := Nat.lt_of_not_le fun le => not_le.mpr below (beyond.mp le)
  have same : x.magnitude = m := by omega
  rw [same]
  exact ⟨closest, within⟩

theorem infinite (proper : f.Proper) (approaches : x.Approaches r) (beyond : f.overflow ≤ r) :
    x = infinity f x.negative := by
  obtain ⟨m, closest, magnitude⟩ := approaches
  have reached : f.infinity ≤ m := by
    rw [Format.infinity_le_iff proper closest, proper.overflowUnits_eq,
      mul_le_mul_iff_of_pos_right f.unitsOfOne_pos]
    exact beyond
  exact eq_infinity (magnitude.trans (Nat.min_eq_right reached))

theorem subnormal_iff (proper : f.Proper) (approaches : x.Approaches r) :
    exponentField f x.toBits = 0 ↔ r < f.leastNormalHalfway := by
  obtain ⟨m, closest, magnitude⟩ := approaches
  have two : 2 ∣ 2 ^ f.fractionBits := dvd_pow_self 2 (Nat.ne_of_gt proper.fraction)
  have full := proper.two_le_fraction
  have room := proper.two_pow_lt_infinity
  have last : (2 ^ f.fractionBits - 1) % 2 = 1 := by omega
  have hidden := closest.lt_iff_of_odd f.strictMono_units last
  rw [proper.leastNormalHalfway_eq, mul_le_mul_iff_of_pos_right f.unitsOfOne_pos] at hidden
  rw [exponentField_eq_zero_iff, ← not_le (a := f.leastNormalHalfway), ← hidden]
  omega

theorem zero_iff (proper : f.Proper) (approaches : x.Approaches r) :
    x = zero f x.negative ↔ r ≤ f.leastPositive / 2 := by
  obtain ⟨m, closest, magnitude⟩ := approaches
  have least := closest.le_iff_of_even f.strictMono_units (Nat.zero_mod 2)
  rw [proper.halfway_zero, mul_le_mul_iff_of_pos_right f.unitsOfOne_pos] at least
  have room := proper.infinity_pos
  have none : x = zero f x.negative ↔ x.magnitude = 0 :=
    ⟨congrArg Binary.magnitude, eq_zero⟩
  rw [none, ← least]
  omega

/-- A number whose magnitude approaches a value is that value rounded, under its sign. -/
theorem rounds (proper : f.Proper) (nonneg : 0 ≤ r) (approaches : x.Approaches r) :
    x.Rounds x.negative (underSign x.negative r) where
  sign := rfl
  infinite beyond := by
    rw [abs_underSign x.negative nonneg] at beyond
    exact approaches.infinite proper beyond
  finite below := by
    rw [abs_underSign x.negative nonneg] at below
    exact finite_of_lt (approaches.closest proper below).2
  nearest below y _ := by
    rw [abs_underSign x.negative nonneg] at below
    have nearest := distance_le_of_closest proper (approaches.closest proper below).1 y
    rw [value, abs_underSign_sub]
    exact nearest.trans (abs_worth_sub_le proper y x.negative nonneg)
  even below y _ other tie := by
    rw [abs_underSign x.negative nonneg] at below
    exact even_of_closest_value proper nonneg (approaches.closest proper below).1 other tie
  subnormal := by
    rw [abs_underSign x.negative nonneg]
    exact approaches.subnormal_iff proper
  zero := by
    rw [abs_underSign x.negative nonneg]
    exact approaches.zero_iff proper

end Approaches

/-! ## Ratios and decimals -/

/-- Rounding a ratio approaches it. -/
theorem approaches_ofRatio (proper : f.Proper) (negative : Bool) (num : Nat) {den : Nat}
    (pos : 0 < den) : (ofRatio f negative num den).Approaches (num / den) := by
  have units : (num * 2 ^ f.unitShift : Nat) / (den : ℚ) = num / den * f.unitsOfOne := by
    rw [Format.unitsOfOne, Nat.cast_mul]
    ring
  rw [Approaches, ← units]
  exact ⟨_, Format.closest_rounded proper pos, Format.nearest_eq_min f num den⟩

/-- The law of rounding.  A decimal of any size is rounded right, under its sign. -/
theorem rounds_ofDecimal (proper : f.Proper) (negative : Bool) (d : Decimal) :
    (ofDecimal f negative d.coefficient d.exponent).Rounds negative
      (underSign negative d.value) := by
  rcases Nat.eq_zero_or_pos d.coefficient with none | pos
  · -- Zero is the ratio of nothing to one.
    have ratio : ofDecimal f negative d.coefficient d.exponent = ofRatio f negative 0 1 := by
      simp only [ofDecimal, if_pos none]
      refine (ofRatio_of_nearest rfl ?_).symm
      exact Format.nearest_of_small f (by simp)
    have value : d.value = (0 : Nat) / (1 : Nat) := by
      rw [(Decimal.value_eq_zero_iff d).mpr none]
      simp
    rw [ratio, value]
    exact (approaches_ofRatio proper negative 0 Nat.one_pos).rounds proper (by simp)
  · rw [ofDecimal_eq_ofRatio proper negative pos, Decimal.value_eq_ratio]
    exact (approaches_ofRatio proper negative _ (by positivity)).rounds proper (by positivity)

end Binary

end CheckHarness
