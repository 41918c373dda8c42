import CheckHarness.Proofs.Binary.Rounding

/-!
# Shortest digits read back

`readsAs_shortest` says that the shortest decimal of a finite number reads back as the
number.  The search keeps a decimal only after it has read it back, and a search that
keeps none gives the exact decimal, which is its own rounding.  Dropping the trailing
zeros keeps the value, and the reading depends on the value alone.
-/

namespace CheckHarness

namespace Decimal

/-! ## Trailing zeros -/

/-- Zeros at the end are steps of the exponent. -/
theorem value_pow_mul (coefficient zeros : Nat) (exponent : Int) :
    (⟨10 ^ zeros * coefficient, exponent⟩ : Decimal).value =
      (⟨coefficient, exponent + zeros⟩ : Decimal).value := by
  have ten : (10 : ℚ) ≠ 0 := by norm_num
  simp only [value, Nat.cast_mul, Nat.cast_pow, Nat.cast_ofNat, zpow_add₀ ten, zpow_natCast]
  ring

theorem value_strip (fuel : Nat) (d : Decimal) : (d.strip fuel).value = d.value := by
  induction fuel generalizing d with
  | zero => rfl
  | succ fuel ih =>
      rw [strip]
      split
      · rename_i trailing
        have whole : 10 ^ 1 * (d.coefficient / 10) = d.coefficient := by omega
        have step := value_pow_mul (d.coefficient / 10) 1 d.exponent
        rw [whole] at step
        rw [ih]
        exact step.symm
      · rfl

theorem value_normal (d : Decimal) : d.normal.value = d.value := value_strip _ d

end Decimal

namespace Binary

variable {f : Format}

/-! ## Candidates -/

theorem readsAs_iff (x : Binary f) (d : Decimal) :
    x.readsAs d = true ↔ ofDecimal f x.negative d.coefficient d.exponent = x :=
  decide_eq_true_iff

/-- Reading back depends on the value alone. -/
theorem readsAs_congr (proper : f.Proper) {x : Binary f} {d d' : Decimal}
    (equal : d.value = d'.value) (reads : x.readsAs d' = true) : x.readsAs d = true := by
  rw [readsAs_iff, ofDecimal_congr proper x.negative equal]
  exact (readsAs_iff x d').mp reads

/-- A neighbour on a grid is kept only if it reads back. -/
theorem readsAs_of_onGrid {x : Binary f} {exponent : Int} {d : Decimal}
    (found : x.onGrid exponent = some d) : x.readsAs d = true := by
  simp only [onGrid] at found
  split at found
  · rename_i below above
    split at found
    · obtain rfl := Option.some.inj found
      exact below
    · obtain rfl := Option.some.inj found
      exact above
  · rename_i below _
    obtain rfl := Option.some.inj found
    exact below
  · rename_i _ above
    obtain rfl := Option.some.inj found
    exact above
  · cases found

/-- The value of the exact decimal, in units. -/
theorem value_exact (x : Binary f) :
    x.exact.value = (f.units x.magnitude : ℚ) / ((2 ^ f.unitShift : Nat) : ℚ) := by
  have powers : (10 : ℚ) ^ f.unitShift = 2 ^ f.unitShift * 5 ^ f.unitShift := by
    rw [← mul_pow]
    norm_num
  simp only [exact, Decimal.value, Nat.cast_mul, Nat.cast_pow, Nat.cast_ofNat, zpow_neg,
    zpow_natCast, powers]
  field_simp

theorem units_pos {magnitude : Nat} (pos : 0 < magnitude) : 0 < f.units magnitude := by
  rcases Nat.lt_or_ge magnitude (2 ^ f.fractionBits) with below | above
  · rwa [Format.units_of_lt below]
  · rw [Format.units_of_le above]
    positivity

/-- The exact decimal reads back. -/
theorem readsAs_exact (proper : f.Proper) {x : Binary f} (nonzero : x.isZero = false)
    (finite : x.magnitude ≤ f.infinity) : x.readsAs x.exact = true := by
  have pos : 0 < x.magnitude := Nat.pos_of_ne_zero (by simpa [isZero] using nonzero)
  rw [readsAs_iff, ofDecimal_of_value proper x.negative (units_pos pos) (Nat.two_pow_pos _)
    x.value_exact]
  exact ofRatio_of_nearest rfl (Format.nearest_units f finite)

/-! ## The search -/

/-- The shortest decimal of a finite number reads back. -/
theorem readsAs_shortest (proper : f.Proper) {x : Binary f} (finite : x.magnitude ≤ f.infinity) :
    x.readsAs x.shortest = true := by
  cases zero : x.isZero with
  | true =>
      have magnitude : x.magnitude = 0 := by simpa [isZero] using zero
      rw [shortest, if_pos zero, readsAs_iff]
      simp only [ofDecimal, if_true, Binary.zero, ← magnitude]
  | false =>
      rw [shortest, if_neg (by simp [zero])]
      refine readsAs_congr proper (Decimal.value_normal _) ?_
      cases found : (List.range 17).findSome? fun n =>
          x.onGrid (powerAbove x.ratio.1 x.ratio.2 - (n + 1 : Nat)) with
      | none => exact readsAs_exact proper zero finite
      | some d =>
          obtain ⟨n, _, kept⟩ := List.exists_of_findSome?_eq_some found
          exact readsAs_of_onGrid kept

end Binary

end CheckHarness
