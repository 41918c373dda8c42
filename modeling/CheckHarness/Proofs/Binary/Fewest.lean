import CheckHarness.Proofs.Binary.Monotone
import Mathlib.Algebra.Order.Field.Power
import Mathlib.Data.Nat.Cast.Order.Field

/-!
# Shortest digits are the fewest

`length_digits_shortest_le` says that no decimal that reads back as a number has fewer digits
than the shortest one, as far as the search goes.

The value of a number lies below the power of ten of `powerAbove`, and not below the one
before (`zpow_powerAbove`).  So on the grid for a count of digits both neighbours of the value
have that many digits.  A decimal of no more digits does not lie strictly between the two: on
the grid there is nothing between neighbours, and all that is finer than the grid lies below
the lower one.  So a neighbour lies between the decimal and the value.  If the decimal reads
back, so does the neighbour, since what reads back has no gaps.
-/

namespace CheckHarness

-- A power of a natural number is the same power whatever else is imported.
attribute [local instance (high)] instPowNat

/-! ## Counts of digits -/

/-- A positive number lies between the powers of ten that its count of digits says. -/
theorem pow_decimalLength {n : Nat} (pos : 0 < n) :
    ∃ k, decimalLength n = k + 1 ∧ 10 ^ k ≤ n ∧ n < 10 ^ (k + 1) := by
  obtain ⟨k, length⟩ := Nat.exists_eq_succ_of_ne_zero
    (Nat.ne_of_gt (Nat.length_toDigits_pos (b := 10) (n := n)))
  refine ⟨k, length, ?_, (Nat.length_toDigits_le_iff (by decide) (Nat.succ_pos k)).mp length.le⟩
  rcases Nat.eq_zero_or_pos k with rfl | more
  · exact pos
  · by_contra fewer
    have := (Nat.length_toDigits_le_iff (by decide) more).mpr (Nat.lt_of_not_le fewer)
    omega

theorem zpow_powerAbove {num den : Nat} (pos : 0 < num) (pos' : 0 < den) :
    (10 : ℚ) ^ (powerAbove num den - 1) ≤ num / den ∧
      (num : ℚ) / den < 10 ^ powerAbove num den := by
  have num_pos : (0 : ℚ) < num := Nat.cast_pos.mpr pos
  have den_pos : (0 : ℚ) < den := Nat.cast_pos.mpr pos'
  rcases Nat.lt_or_ge num den with below | above
  · obtain ⟨k, length, low, high⟩ := pow_decimalLength
      (n := (den - 1) / num) (Nat.div_pos (by omega) pos)
    rw [Nat.le_div_iff_mul_le pos] at low
    rw [Nat.div_lt_iff_lt_mul pos] at high
    have least : den ≤ 10 ^ (k + 1) * num := by omega
    have greatest : 10 ^ k * num < den := by omega
    have top : powerAbove num den = -k := by
      rw [powerAbove, if_neg (Nat.not_le.mpr below), length]
      omega
    have last : powerAbove num den - 1 = -((k + 1 : Nat) : Int) := by omega
    rw [last, top, zpow_neg, zpow_neg, zpow_natCast, zpow_natCast]
    constructor
    · rw [inv_le_iff_one_le_mul₀ (by positivity), mul_comm, ← mul_div_assoc, one_le_div den_pos]
      exact_mod_cast least
    · rw [lt_inv_comm₀ (by positivity) (by positivity), inv_div, lt_div_iff₀ num_pos]
      exact_mod_cast greatest
  · obtain ⟨k, length, low, high⟩ := pow_decimalLength
      (n := num / den) (Nat.div_pos above pos')
    rw [Nat.le_div_iff_mul_le pos'] at low
    rw [Nat.div_lt_iff_lt_mul pos'] at high
    have top : powerAbove num den = (k + 1 : Nat) := by
      rw [powerAbove, if_pos above, length]
    have last : powerAbove num den - 1 = k := by omega
    rw [last, top, zpow_natCast, zpow_natCast, le_div_iff₀ den_pos, div_lt_iff₀ den_pos]
    exact ⟨by exact_mod_cast low, by exact_mod_cast high⟩

namespace Decimal

theorem length_digits_le_iff {d : Decimal} {k : Nat} (pos : 0 < k) :
    d.digits.length ≤ k ↔ d.coefficient < 10 ^ k :=
  Nat.length_toDigits_le_iff (by decide) pos

theorem coefficient_strip_le (fuel : Nat) (d : Decimal) :
    (d.strip fuel).coefficient ≤ d.coefficient := by
  induction fuel generalizing d with
  | zero => exact Nat.le_refl _
  | succ fuel ih =>
      rw [strip]
      split
      · exact (ih _).trans (Nat.div_le_self _ _)
      · exact Nat.le_refl _

/-- Without its trailing zeros, a power of ten has no more digits than what lies below it. -/
theorem length_digits_normal_le {d : Decimal} {k : Nat} (pos : 0 < k)
    (le : d.coefficient ≤ 10 ^ k) : d.normal.digits.length ≤ k := by
  rw [length_digits_le_iff pos]
  rcases Nat.lt_or_eq_of_le le with lt | power
  · exact (coefficient_strip_le _ d).trans_lt lt
  · obtain ⟨k, rfl⟩ := Nat.exists_eq_succ_of_ne_zero (Nat.ne_of_gt pos)
    have tens : d.coefficient = 10 ^ k * 10 := power
    have some : 0 < 10 ^ k := Nat.pow_pos (by decide)
    obtain ⟨fuel, log⟩ : ∃ fuel, d.coefficient.log2 = fuel + 1 := by
      refine Nat.exists_eq_succ_of_ne_zero (Nat.ne_of_gt ?_)
      exact (Nat.le_log2 (by omega)).mpr (by omega)
    have trailing : d.coefficient ≠ 0 ∧ d.coefficient % 10 = 0 := by omega
    rw [normal, log, strip, if_pos trailing]
    refine (coefficient_strip_le fuel _).trans_lt ?_
    rw [power]
    exact Nat.div_lt_self (by omega) (by decide)

end Decimal

namespace Binary

variable {f : Format}

/-! ## Neighbours on a grid -/

/-- The lower neighbour of the value on a grid, counted in steps of the grid. -/
def lower (x : Binary f) (exponent : Int) : Nat :=
  x.ratio.1 * 10 ^ (-exponent).toNat / (x.ratio.2 * 10 ^ exponent.toNat)

/-- The value, counted in steps of a grid. -/
theorem value_exact_eq (x : Binary f) (exponent : Int) :
    x.exact.value = ((x.ratio.1 * 10 ^ (-exponent).toNat : Nat) : ℚ) /
      ((x.ratio.2 * 10 ^ exponent.toNat : Nat) : ℚ) * 10 ^ exponent := by
  have step := (⟨1, exponent⟩ : Decimal).value_eq_ratio
  rw [Decimal.value, Nat.cast_one, one_mul, Nat.one_mul] at step
  have unit : ((2 ^ f.unitShift : Nat) : ℚ) ≠ 0 := by positivity
  have up : ((10 ^ exponent.toNat : Nat) : ℚ) ≠ 0 := by positivity
  have down : ((10 ^ (-exponent).toNat : Nat) : ℚ) ≠ 0 := by positivity
  rw [value_exact, step, ratio, Nat.cast_mul, Nat.cast_mul]
  field_simp

theorem value_lower_le (x : Binary f) (exponent : Int) :
    (⟨x.lower exponent, exponent⟩ : Decimal).value ≤ x.exact.value := by
  rw [x.value_exact_eq exponent, Decimal.value]
  exact mul_le_mul_of_nonneg_right Nat.cast_div_le (by positivity)

theorem value_lt_upper (x : Binary f) (exponent : Int) :
    x.exact.value < (⟨x.lower exponent + 1, exponent⟩ : Decimal).value := by
  rw [x.value_exact_eq exponent, Decimal.value]
  have step : 0 < x.ratio.2 * 10 ^ exponent.toNat :=
    Nat.mul_pos (Nat.two_pow_pos _) (Nat.pow_pos (by decide))
  have next : x.ratio.1 * 10 ^ (-exponent).toNat <
      (x.lower exponent + 1) * (x.ratio.2 * 10 ^ exponent.toNat) := by
    rw [Nat.mul_comm _ (x.ratio.2 * _)]
    exact Nat.lt_mul_div_succ _ step
  refine mul_lt_mul_of_pos_right ?_ (by positivity)
  rw [div_lt_iff₀ (Nat.cast_pos.mpr step)]
  exact_mod_cast next

theorem onGrid_eq_none {x : Binary f} {exponent : Int} (none : x.onGrid exponent = none) :
    x.readsAs ⟨x.lower exponent, exponent⟩ = false ∧
      x.readsAs ⟨x.lower exponent + 1, exponent⟩ = false := by
  simp only [onGrid] at none
  split at none
  · split at none <;> cases none
  · cases none
  · cases none
  · exact ⟨‹_›, ‹_›⟩

theorem onGrid_eq_some {x : Binary f} {exponent : Int} {d : Decimal}
    (found : x.onGrid exponent = some d) : d.coefficient ≤ x.lower exponent + 1 := by
  simp only [onGrid] at found
  split at found
  · split at found <;> cases found
    · exact Nat.le_succ _
    · exact Nat.le_refl _
  · cases found
    exact Nat.le_succ _
  · cases found
    exact Nat.le_refl _
  · cases found

/-! ## The leading power of ten -/

/-- The power of ten above the value. -/
def top (x : Binary f) : Int := powerAbove x.ratio.1 x.ratio.2

theorem zpow_top {x : Binary f} (nonzero : x.isZero = false) :
    (10 : ℚ) ^ (x.top - 1) ≤ x.exact.value ∧ x.exact.value < 10 ^ x.top := by
  have pos : 0 < x.magnitude := Nat.pos_of_ne_zero (by simpa [isZero] using nonzero)
  rw [value_exact]
  exact zpow_powerAbove (units_pos pos) (Nat.two_pow_pos f.unitShift)

/-- On the grid for a count of digits, the lower neighbour has that many. -/
theorem lower_bounds {x : Binary f} (nonzero : x.isZero = false) (k : Nat) :
    10 ^ k ≤ x.lower (x.top - (k + 1 : Nat)) ∧ x.lower (x.top - (k + 1 : Nat)) < 10 ^ (k + 1) := by
  obtain ⟨least, greatest⟩ := zpow_top nonzero
  have ten : (10 : ℚ) ≠ 0 := by norm_num
  have step : (0 : ℚ) < 10 ^ (x.top - (k + 1 : Nat)) := by positivity
  have low := x.value_lower_le (x.top - (k + 1 : Nat))
  have high := x.value_lt_upper (x.top - (k + 1 : Nat))
  have first : (10 : ℚ) ^ (x.top - 1) = 10 ^ k * 10 ^ (x.top - (k + 1 : Nat)) := by
    rw [← zpow_natCast, ← zpow_add₀ ten]
    congr 1
    omega
  have next : (10 : ℚ) ^ x.top = 10 ^ (k + 1) * 10 ^ (x.top - (k + 1 : Nat)) := by
    rw [← zpow_natCast, ← zpow_add₀ ten]
    congr 1
    omega
  rw [Decimal.value] at low high
  constructor
  · have above := (mul_lt_mul_iff_left₀ step).mp (first ▸ least.trans_lt high)
    have above : 10 ^ k < x.lower (x.top - (k + 1 : Nat)) + 1 := by exact_mod_cast above
    omega
  · have below := (mul_lt_mul_iff_left₀ step).mp (next ▸ low.trans_lt greatest)
    exact_mod_cast below

/-! ## The search finds the fewest -/

section Search

variable {x : Binary f} {d : Decimal} {k : Nat}

/-- A decimal of few digits does not lie strictly between neighbours on the grid. -/
theorem not_between (nonzero : x.isZero = false) (digits : d.coefficient < 10 ^ (k + 1)) :
    d.value ≤ (⟨x.lower (x.top - (k + 1 : Nat)), x.top - (k + 1 : Nat)⟩ : Decimal).value ∨
      (⟨x.lower (x.top - (k + 1 : Nat)) + 1, x.top - (k + 1 : Nat)⟩ : Decimal).value ≤
        d.value := by
  have ten : (10 : ℚ) ≠ 0 := by norm_num
  have many := (lower_bounds nonzero k).1
  generalize x.lower (x.top - (k + 1 : Nat)) = lower at many ⊢
  generalize x.top - (k + 1 : Nat) = step at many ⊢
  rcases Int.lt_or_le d.exponent step with finer | coarser
  · -- Even one digit more would not reach the lower neighbour.
    refine Or.inl ?_
    calc d.value
        ≤ 10 ^ (k + 1) * 10 ^ d.exponent := by
          refine mul_le_mul_of_nonneg_right ?_ (by positivity)
          exact_mod_cast digits.le
      _ ≤ 10 ^ (k + 1) * 10 ^ (step - 1) := by
          refine mul_le_mul_of_nonneg_left ?_ (by positivity)
          exact zpow_le_zpow_right₀ (by norm_num) (by omega)
      _ = 10 ^ k * 10 ^ step := by
          rw [zpow_sub_one₀ ten]
          field_simp
          ring
      _ ≤ lower * 10 ^ step := by
          refine mul_le_mul_of_nonneg_right ?_ (by positivity)
          exact_mod_cast many
  · -- The decimal lies on the grid.
    obtain ⟨zeros, exponent⟩ := Int.eq_ofNat_of_zero_le (show 0 ≤ d.exponent - step by omega)
    have whole : d.value = ((10 ^ zeros * d.coefficient : Nat) : ℚ) * 10 ^ step := by
      have moved := Decimal.value_pow_mul d.coefficient zeros step
      have power : step + zeros = d.exponent := by omega
      rw [power] at moved
      exact moved.symm
    rw [whole]
    rcases Nat.lt_or_ge lower (10 ^ zeros * d.coefficient) with above | below
    · refine Or.inr (mul_le_mul_of_nonneg_right ?_ (by positivity))
      exact Nat.cast_le.mpr above
    · refine Or.inl (mul_le_mul_of_nonneg_right ?_ (by positivity))
      exact Nat.cast_le.mpr below

/-- If a decimal of few digits reads back, a neighbour on the grid does. -/
theorem onGrid_ne_none (proper : f.Proper) (finite : x.magnitude ≤ f.infinity)
    (nonzero : x.isZero = false) (reads : x.readsAs d = true)
    (digits : d.coefficient < 10 ^ (k + 1)) : x.onGrid (x.top - (k + 1 : Nat)) ≠ none := by
  intro none
  obtain ⟨low, high⟩ := onGrid_eq_none none
  have exact := readsAs_exact proper nonzero finite
  rcases not_between nonzero digits with below | above
  · rw [readsAs_of_between proper reads exact below (x.value_lower_le _)] at low
    cases low
  · rw [readsAs_of_between proper exact reads (x.value_lt_upper _).le above] at high
    cases high

/-- What is found first is found no later than it could be. -/
theorem findSome?_range {α : Type} (search : Nat → Option α) {n bound : Nat} (lt : n < bound)
    (found : search n ≠ none) :
    ∃ m ≤ n, ∃ a, search m = some a ∧ (List.range bound).findSome? search = some a := by
  obtain ⟨a, first⟩ : ∃ a, (List.range bound).findSome? search = some a := by
    rw [← Option.isSome_iff_exists, List.findSome?_isSome_iff]
    exact ⟨n, List.mem_range.mpr lt, Option.isSome_iff_ne_none.mpr found⟩
  obtain ⟨before, m, behind, split, here, missed⟩ := List.findSome?_eq_some_iff.mp first
  refine ⟨m, ?_, a, here, first⟩
  have sorted := split ▸ List.pairwise_lt_range (n := bound)
  have mem : n ∈ before ++ m :: behind := split ▸ List.mem_range.mpr lt
  rcases List.mem_append.mp mem with early | late
  · exact absurd (missed n early) found
  · rcases List.mem_cons.mp late with rfl | later
    · exact Nat.le_refl _
    · exact (List.rel_of_pairwise_cons (List.pairwise_append.mp sorted).2.1 later).le

theorem coefficient_pos_of_readsAs (nonzero : x.isZero = false) (reads : x.readsAs d = true) :
    0 < d.coefficient := by
  refine Nat.pos_of_ne_zero fun zero => ?_
  rw [readsAs_iff, zero, ofDecimal_zero] at reads
  rw [← reads] at nonzero
  cases nonzero

/-- No decimal that reads back has fewer digits than the shortest one. -/
theorem length_digits_shortest_le (proper : f.Proper) (finite : x.magnitude ≤ f.infinity)
    (reads : x.readsAs d = true) (searched : d.digits.length ≤ 17) :
    x.shortest.digits.length ≤ d.digits.length := by
  obtain ⟨n, length⟩ := Nat.exists_eq_succ_of_ne_zero (Nat.ne_of_gt
    (Nat.length_toDigits_pos (b := 10) (n := d.coefficient)))
  have length : d.digits.length = n + 1 := length
  cases zero : x.isZero with
  | true =>
      rw [shortest, if_pos zero, length]
      exact Nat.succ_le_succ (Nat.zero_le n)
  | false =>
      have digits := (Decimal.length_digits_le_iff (Nat.succ_pos n)).mp length.le
      obtain ⟨m, le, found, here, first⟩ := findSome?_range
        (fun n => x.onGrid (x.top - (n + 1 : Nat))) (show n < 17 by omega)
        (onGrid_ne_none proper finite zero reads digits)
      have bound := (onGrid_eq_some here).trans (lower_bounds zero m).2
      have short := Decimal.length_digits_normal_le (Nat.succ_pos m) bound
      have shown : x.shortest = found.normal := by
        rw [shortest, if_neg (by simp [zero])]
        exact congrArg (fun search => (search.getD x.exact).normal) first
      rw [shown]
      omega

end Search

end Binary

end CheckHarness
