import CheckHarness.Proofs.Binary.Nearest
import CheckHarness.Proofs.Binary.Shortest

/-!
# Rounding keeps order

Of two values the greater has no lower closest magnitude (`Closest.mono`): the point halfway
above the lower magnitude would lie between them, so both would be that point, and a point has
one closest magnitude.  So rounding keeps the order of ratios (`nearest_mono`) and of decimals
(`magnitude_ofDecimal_mono`).

The decimals that read back as one number therefore have no gaps: what lies between two of
them is one of them (`readsAs_of_between`).
-/

namespace CheckHarness

-- A power of a natural number is the same power whatever else is imported.
attribute [local instance (high)] instPowNat

theorem Closest.mono {values : Nat → ℚ} {r r' : ℚ} {m m' : Nat} (increasing : StrictMono values)
    (closest : Closest values r m) (closest' : Closest values r' m') (le : r ≤ r') : m ≤ m' := by
  by_contra above
  have low := closest.halfway_le increasing (Nat.lt_of_not_le above)
  have high := closest'.le_halfway increasing (Nat.le_refl m')
  obtain rfl : r = halfway values m' := le_antisymm (le.trans high) low
  obtain rfl : r' = halfway values m' := le_antisymm high le
  have even := (closest.of_halfway increasing).2
  have even' := (closest'.of_halfway increasing).2
  have next := (closest.of_halfway increasing).1
  omega

namespace Format

variable {f : Format}

/-- A greater ratio is not rounded to a lower magnitude. -/
theorem nearest_mono (proper : f.Proper) {num den num' den' : Nat} (pos : 0 < den)
    (pos' : 0 < den') (le : (num : ℚ) / den ≤ num' / den') :
    f.nearest num den ≤ f.nearest num' den' := by
  have scaled : ((num * 2 ^ f.unitShift : Nat) : ℚ) / den ≤
      ((num' * 2 ^ f.unitShift : Nat) : ℚ) / den' := by
    rw [Nat.cast_mul, Nat.cast_mul, mul_div_right_comm, mul_div_right_comm]
    exact mul_le_mul_of_nonneg_right le (Nat.cast_nonneg _)
  rw [nearest_eq_min, nearest_eq_min]
  refine min_le_min_right f.infinity ?_
  exact Closest.mono (strictMono_units f) (closest_rounded proper pos)
    (closest_rounded proper pos') scaled

end Format

theorem Decimal.value_pos_iff (d : Decimal) : 0 < d.value ↔ 0 < d.coefficient := by
  have ten : (0 : ℚ) < 10 ^ d.exponent := zpow_pos (by norm_num) _
  rw [value, mul_pos_iff_of_pos_right ten, Nat.cast_pos]

namespace Binary

variable {f : Format}

@[simp] theorem ofDecimal_zero (negative : Bool) (exponent : Int) :
    ofDecimal f negative 0 exponent = zero f negative := by
  simp only [ofDecimal, if_true]

theorem magnitude_ofDecimal (proper : f.Proper) (negative : Bool) {coefficient : Nat}
    (pos : 0 < coefficient) (exponent : Int) :
    (ofDecimal f negative coefficient exponent).magnitude =
      f.nearest (coefficient * 10 ^ exponent.toNat) (10 ^ (-exponent).toNat) := by
  rw [ofDecimal_eq_ofRatio proper negative pos]
  rfl

theorem negative_ofDecimal (proper : f.Proper) (negative : Bool) (coefficient : Nat)
    (exponent : Int) : (ofDecimal f negative coefficient exponent).negative = negative := by
  rcases Nat.eq_zero_or_pos coefficient with zero | pos
  · rw [zero, ofDecimal_zero]
    rfl
  · rw [ofDecimal_eq_ofRatio proper negative pos]
    rfl

/-- A greater decimal is not rounded to a lower magnitude. -/
theorem magnitude_ofDecimal_mono (proper : f.Proper) (negative : Bool) {d d' : Decimal}
    (le : d.value ≤ d'.value) :
    (ofDecimal f negative d.coefficient d.exponent).magnitude ≤
      (ofDecimal f negative d'.coefficient d'.exponent).magnitude := by
  rcases Nat.eq_zero_or_pos d.coefficient with zero | pos
  · rw [zero, ofDecimal_zero]
    exact Nat.zero_le _
  · have positive := (Decimal.value_pos_iff d).mpr pos
    have pos' : 0 < d'.coefficient := (Decimal.value_pos_iff d').mp (positive.trans_le le)
    rw [magnitude_ofDecimal proper negative pos, magnitude_ofDecimal proper negative pos']
    rw [Decimal.value_eq_ratio, Decimal.value_eq_ratio] at le
    exact Format.nearest_mono proper (by positivity) (by positivity) le

/-- What lies between two decimals that read back as a number does so too. -/
theorem readsAs_of_between (proper : f.Proper) {x : Binary f} {low d high : Decimal}
    (reads : x.readsAs low = true) (reads' : x.readsAs high = true) (above : low.value ≤ d.value)
    (below : d.value ≤ high.value) : x.readsAs d = true := by
  rw [readsAs_iff] at reads reads' ⊢
  have least := magnitude_ofDecimal_mono proper x.negative above
  have greatest := magnitude_ofDecimal_mono proper x.negative below
  rw [reads] at least
  rw [reads'] at greatest
  rw [Binary.mk.injEq]
  exact ⟨negative_ofDecimal proper .., Nat.le_antisymm greatest least⟩

end Binary

end CheckHarness
