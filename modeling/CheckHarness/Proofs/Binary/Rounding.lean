import CheckHarness.Binary.Shortest
import CheckHarness.Proofs.Binary.Fields
import Mathlib.Algebra.Order.Field.Rat
import Mathlib.Tactic.FieldSimp
import Mathlib.Tactic.Positivity
import Mathlib.Tactic.Ring

/-!
# Rounding depends on the value alone

`Format.nearest` rounds a ratio of naturals.  Three facts about it carry the round
trip of written numbers.

* Equal ratios are rounded alike (`nearest_congr`).
* A value of the format is its own rounding (`nearest_units`).
* Ratios far outside the format go to infinity or to zero (`nearest_of_large`,
  `nearest_of_small`).

A decimal is rounded through a ratio, except that an exponent far outside the format
settles the matter.  By the third fact the exception changes nothing.  So
`ofDecimal_congr` holds: decimals of equal value give one number.
-/

namespace CheckHarness

namespace Format

variable {f : Format}

/-! ## Equal ratios -/

/-- A common factor of a ratio does not matter. -/
theorem nearest_scale (f : Format) (num den : Nat) {k : Nat} (pos : 0 < k) :
    f.nearest (k * num) (k * den) = f.nearest num den := by
  have scaled : k * num * 2 ^ f.unitShift = k * (num * 2 ^ f.unitShift) := Nat.mul_assoc ..
  have step : ∀ dropped, k * den * 2 ^ dropped = k * (den * 2 ^ dropped) :=
    fun _ => Nat.mul_assoc ..
  have twice : ∀ rest, 2 * (k * rest) = k * (2 * rest) := fun _ => Nat.mul_left_comm ..
  simp only [nearest, scaled, Nat.mul_div_mul_left _ _ pos, step, Nat.mul_mod_mul_left, twice,
    Nat.mul_lt_mul_left pos, Nat.mul_right_inj (Nat.ne_of_gt pos)]

/-- Equal ratios are rounded alike. -/
theorem nearest_congr (f : Format) {num den num' den' : Nat} (pos : 0 < den) (pos' : 0 < den')
    (equal : num * den' = num' * den) : f.nearest num den = f.nearest num' den' := by
  rw [← nearest_scale f num den pos', ← nearest_scale f num' den' pos, Nat.mul_comm den' num,
    Nat.mul_comm den num', equal, Nat.mul_comm den' den]

/-! ## Values of the format -/

theorem units_of_lt {magnitude : Nat} (below : magnitude < 2 ^ f.fractionBits) :
    f.units magnitude = magnitude := by
  rw [units, if_pos below]

theorem units_of_le {magnitude : Nat} (above : 2 ^ f.fractionBits ≤ magnitude) :
    f.units magnitude =
      (2 ^ f.fractionBits + magnitude % 2 ^ f.fractionBits) *
        2 ^ (magnitude / 2 ^ f.fractionBits - 1) := by
  rw [units, if_neg (Nat.not_lt.mpr above)]

/-- The kept bits of any other magnitude are its fraction with the hidden bit. -/
theorem log2_units {magnitude : Nat} (above : 2 ^ f.fractionBits ≤ magnitude) :
    (f.units magnitude).log2 = f.fractionBits + (magnitude / 2 ^ f.fractionBits - 1) := by
  have fraction := Nat.mod_lt magnitude (Nat.two_pow_pos f.fractionBits)
  rw [units_of_le above, Nat.log2_eq_iff (by positivity), Nat.pow_add, Nat.add_right_comm,
    Nat.pow_add (m := f.fractionBits + 1)]
  constructor
  · exact Nat.mul_le_mul_right _ (Nat.le_add_right ..)
  · exact Nat.mul_lt_mul_of_pos_right (by rw [Nat.pow_succ]; omega) (Nat.two_pow_pos _)

/-- A value that is given in units and loses no bits. -/
theorem nearest_of_units (f : Format) {units : Nat}
    (exact : 2 ^ (units.log2 - f.fractionBits) ∣ units) :
    f.nearest units (2 ^ f.unitShift) =
      min ((units.log2 - f.fractionBits) * 2 ^ f.fractionBits +
        units / 2 ^ (units.log2 - f.fractionBits)) f.infinity := by
  have unit := Nat.two_pow_pos f.unitShift
  have dropped := Nat.two_pow_pos (units.log2 - f.fractionBits)
  have rest : units * 2 ^ f.unitShift %
      (2 ^ f.unitShift * 2 ^ (units.log2 - f.fractionBits)) = 0 := by
    rw [Nat.mul_comm units, Nat.mul_mod_mul_left, Nat.mod_eq_zero_of_dvd exact, Nat.mul_zero]
  have kept : units * 2 ^ f.unitShift / (2 ^ f.unitShift * 2 ^ (units.log2 - f.fractionBits)) =
      units / 2 ^ (units.log2 - f.fractionBits) := by
    rw [Nat.mul_comm units, Nat.mul_div_mul_left _ _ unit]
  have step : 2 ^ f.unitShift * 2 ^ (units.log2 - f.fractionBits) ≠ 0 := by positivity
  simp [nearest, Nat.mul_div_cancel _ unit, rest, kept, step]

theorem log2_sub_of_lt {magnitude : Nat} (below : magnitude < 2 ^ f.fractionBits) :
    magnitude.log2 - f.fractionBits = 0 := by
  rcases Nat.eq_zero_or_pos magnitude with rfl | pos
  · simp
  · have := (Nat.log2_lt (Nat.ne_of_gt pos)).mpr below
    omega

/-- A value of the format is its own rounding. -/
theorem nearest_units (f : Format) {magnitude : Nat} (finite : magnitude ≤ f.infinity) :
    f.nearest (f.units magnitude) (2 ^ f.unitShift) = magnitude := by
  rcases Nat.lt_or_ge magnitude (2 ^ f.fractionBits) with below | above
  · have small := log2_sub_of_lt below
    rw [units_of_lt below, nearest_of_units f (by simp [small]), small]
    simpa using finite
  · have dropped : (f.units magnitude).log2 - f.fractionBits =
        magnitude / 2 ^ f.fractionBits - 1 := by
      have log := log2_units above
      omega
    have exact : 2 ^ (magnitude / 2 ^ f.fractionBits - 1) ∣ f.units magnitude := by
      rw [units_of_le above]
      exact Nat.dvd_mul_left ..
    have pos := Nat.two_pow_pos f.fractionBits
    have exponent : 1 ≤ magnitude / 2 ^ f.fractionBits := (Nat.one_le_div_iff pos).mpr above
    have carried : (magnitude / 2 ^ f.fractionBits - 1) * 2 ^ f.fractionBits +
        2 ^ f.fractionBits = magnitude / 2 ^ f.fractionBits * 2 ^ f.fractionBits := by
      rw [← Nat.succ_mul, Nat.succ_eq_add_one, Nat.sub_add_cancel exponent]
    have fields := Nat.div_add_mod' magnitude (2 ^ f.fractionBits)
    rw [nearest_of_units f (by rwa [dropped]), dropped, units_of_le above,
      Nat.mul_div_cancel _ (Nat.two_pow_pos _), ← Nat.add_assoc, carried, fields]
    exact Nat.min_eq_left finite

/-! ## Ratios far outside the format -/

/-- A ratio that reaches beyond the format goes to infinity. -/
theorem nearest_of_large (f : Format) {num den : Nat} (pos : 0 < den)
    (large : den * 2 ^ f.reach ≤ num) : f.nearest num den = f.infinity := by
  have scaled : 2 ^ f.reach ≤ num * 2 ^ f.unitShift / den := by
    rw [Nat.le_div_iff_mul_le pos, Nat.mul_comm]
    exact Nat.le_trans large (Nat.le_mul_of_pos_right _ (Nat.two_pow_pos _))
  have dropped : 2 ^ f.exponentBits ≤ (num * 2 ^ f.unitShift / den).log2 - f.fractionBits := by
    have nonzero : num * 2 ^ f.unitShift / den ≠ 0 :=
      Nat.ne_of_gt (Nat.lt_of_lt_of_le (Nat.two_pow_pos _) scaled)
    have log := (Nat.le_log2 nonzero).mpr scaled
    rw [reach] at log
    omega
  have beyond : f.infinity ≤
      ((num * 2 ^ f.unitShift / den).log2 - f.fractionBits) * 2 ^ f.fractionBits :=
    Nat.mul_le_mul_right _ (Nat.le_trans (Nat.sub_le ..) dropped)
  exact Nat.min_eq_right (Nat.le_trans beyond (Nat.le_trans (Nat.le_add_right ..)
    (Nat.le_add_right ..)))

/-- A ratio below half a unit goes to zero. -/
theorem nearest_of_small (f : Format) {num den : Nat}
    (small : 2 * (num * 2 ^ f.unitShift) < den) : f.nearest num den = 0 := by
  have below : num * 2 ^ f.unitShift < den := by omega
  have step : ¬ den < 2 * (num * 2 ^ f.unitShift) := by omega
  have tie : ¬ den = 2 * (num * 2 ^ f.unitShift) := by omega
  simp [nearest, Nat.div_eq_of_lt below, Nat.mod_eq_of_lt below, step, tie]

end Format

namespace Binary

variable {f : Format}

/-! ## Decimals -/

theorem ofRatio_of_nearest {negative : Bool} {num den : Nat} {x : Binary f}
    (sign : negative = x.negative) (magnitude : f.nearest num den = x.magnitude) :
    ofRatio f negative num den = x := by
  subst sign
  simp only [ofRatio, magnitude]

theorem two_pow_le_ten_pow (n : Nat) : 2 ^ n ≤ 10 ^ n := Nat.pow_le_pow_left (by decide) n

theorem two_pow_three_mul_le_ten_pow (n : Nat) : 2 ^ (3 * n) ≤ 10 ^ n := by
  rw [Nat.pow_mul]
  exact Nat.pow_le_pow_left (by decide) n

theorem unitShift_lt_reach (proper : f.Proper) : f.unitShift + 2 ≤ f.reach := by
  have half := Nat.pow_le_pow_right (n := 2) (by decide) (Nat.sub_le f.exponentBits 1)
  have exponent := proper.exponent
  have two : 2 ^ 1 ≤ 2 ^ (f.exponentBits - 1) := Nat.pow_le_pow_right (by decide) (by omega)
  rw [Format.unitShift, Format.reach]
  omega

theorem ofRatio_of_large (negative : Bool) {coefficient e : Nat} (pos : 0 < coefficient)
    (large : f.reach ≤ e) :
    ofRatio f negative (coefficient * 10 ^ e) 1 = infinity f negative := by
  refine ofRatio_of_nearest rfl (Format.nearest_of_large f Nat.one_pos ?_)
  calc 1 * 2 ^ f.reach = 2 ^ f.reach := Nat.one_mul _
    _ ≤ 2 ^ e := Nat.pow_le_pow_right (by decide) large
    _ ≤ 10 ^ e := two_pow_le_ten_pow e
    _ ≤ coefficient * 10 ^ e := Nat.le_mul_of_pos_left _ pos

/-- A decimal with a great negative exponent goes to zero as a ratio too. -/
theorem ofRatio_of_small (proper : f.Proper) (negative : Bool) {coefficient e : Nat}
    (small : coefficient.log2 + f.reach < 3 * e) :
    ofRatio f negative coefficient (10 ^ e) = zero f negative := by
  refine ofRatio_of_nearest rfl (Format.nearest_of_small f ?_)
  have shift := unitShift_lt_reach proper
  calc 2 * (coefficient * 2 ^ f.unitShift)
      < 2 * (2 ^ (coefficient.log2 + 1) * 2 ^ f.unitShift) := by
        have below := Nat.mul_lt_mul_of_pos_right (Nat.lt_log2_self (n := coefficient))
          (Nat.two_pow_pos f.unitShift)
        omega
    _ = 2 ^ (1 + (coefficient.log2 + 1 + f.unitShift)) := by
        rw [← Nat.pow_add, Nat.pow_add 2 1, Nat.pow_one]
    _ ≤ 2 ^ (3 * e) := Nat.pow_le_pow_right (by decide) (by omega)
    _ ≤ 10 ^ e := two_pow_three_mul_le_ten_pow e

/-- A decimal is rounded as its ratio is, whatever its exponent. -/
theorem ofDecimal_eq_ofRatio (proper : f.Proper) (negative : Bool) {coefficient : Nat}
    (pos : 0 < coefficient) (exponent : Int) :
    ofDecimal f negative coefficient exponent =
      ofRatio f negative (coefficient * 10 ^ exponent.toNat) (10 ^ (-exponent).toNat) := by
  have nonzero := Nat.ne_of_gt pos
  cases exponent with
  | ofNat e =>
      have ratio : (-Int.ofNat e).toNat = 0 := by
        rw [Int.ofNat_eq_natCast]
        omega
      have power : (Int.ofNat e).toNat = e := rfl
      rw [ratio, power, Nat.pow_zero]
      simp only [ofDecimal, if_neg nonzero]
      split
      · rename_i large
        exact (ofRatio_of_large negative pos large).symm
      · rfl
  | negSucc e =>
      simp only [ofDecimal, if_neg nonzero, Int.toNat_negSucc, Nat.pow_zero, Nat.mul_one,
        Int.neg_negSucc]
      split
      · rename_i small
        exact (ofRatio_of_small proper negative small).symm
      · rfl

end Binary

/-! ## Values of decimals -/

namespace Decimal

/-- The value of a decimal. -/
def value (d : Decimal) : ℚ := d.coefficient * 10 ^ d.exponent

theorem value_eq_ratio (d : Decimal) :
    d.value = ((d.coefficient * 10 ^ d.exponent.toNat : Nat) : ℚ) /
      ((10 ^ (-d.exponent).toNat : Nat) : ℚ) := by
  have ten : (10 : ℚ) ≠ 0 := by norm_num
  have split : d.exponent = d.exponent.toNat - (-d.exponent).toNat := by omega
  rw [value, Nat.cast_mul, Nat.cast_pow, Nat.cast_pow, Nat.cast_ofNat, mul_div_assoc]
  conv_lhs => rw [split, zpow_sub₀ ten, zpow_natCast, zpow_natCast]

theorem value_eq_zero_iff (d : Decimal) : d.value = 0 ↔ d.coefficient = 0 := by
  have ten : (10 : ℚ) ^ d.exponent ≠ 0 := zpow_ne_zero _ (by norm_num)
  rw [value, mul_eq_zero, or_iff_left ten, Nat.cast_eq_zero]

end Decimal

namespace Binary

variable {f : Format}

/-- A decimal of positive value is rounded as any ratio of its value. -/
theorem ofDecimal_of_value (proper : f.Proper) (negative : Bool) {d : Decimal} {num den : Nat}
    (pos : 0 < num) (pos' : 0 < den) (value : d.value = (num : ℚ) / den) :
    ofDecimal f negative d.coefficient d.exponent = ofRatio f negative num den := by
  have den_ne : (den : ℚ) ≠ 0 := Nat.cast_ne_zero.mpr (Nat.ne_of_gt pos')
  have nonzero : d.coefficient ≠ 0 := by
    intro zero
    rw [(Decimal.value_eq_zero_iff d).mpr zero, eq_comm, div_eq_zero_iff] at value
    rcases value with zero | zero
    · exact Nat.ne_of_gt pos (Nat.cast_eq_zero.mp zero)
    · exact den_ne zero
  have equal : d.coefficient * 10 ^ d.exponent.toNat * den = num * 10 ^ (-d.exponent).toNat := by
    have power : ((10 ^ (-d.exponent).toNat : Nat) : ℚ) ≠ 0 := by positivity
    rw [Decimal.value_eq_ratio, div_eq_div_iff power den_ne] at value
    exact_mod_cast value
  rw [ofDecimal_eq_ofRatio proper negative (Nat.pos_of_ne_zero nonzero)]
  exact ofRatio_of_nearest rfl (Format.nearest_congr f (by positivity) pos' equal)

/-- Decimals of equal value give one number. -/
theorem ofDecimal_congr (proper : f.Proper) (negative : Bool) {d d' : Decimal}
    (equal : d.value = d'.value) :
    ofDecimal f negative d.coefficient d.exponent =
      ofDecimal f negative d'.coefficient d'.exponent := by
  by_cases zero : d'.coefficient = 0
  · have zero' : d.coefficient = 0 := by
      rw [← Decimal.value_eq_zero_iff, equal, Decimal.value_eq_zero_iff]
      exact zero
    simp only [ofDecimal, if_pos zero, if_pos zero']
  · have pos := Nat.pos_of_ne_zero zero
    rw [ofDecimal_eq_ofRatio proper negative pos]
    exact ofDecimal_of_value proper negative (by positivity) (by positivity)
      (equal.trans d'.value_eq_ratio)

end Binary

end CheckHarness
