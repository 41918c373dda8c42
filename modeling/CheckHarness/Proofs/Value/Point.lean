import CheckHarness.Proofs.Binary.Fewest
import CheckHarness.Proofs.Binary.Notation
import CheckHarness.Proofs.Binary.Worth

/-!
# Which numbers show a point

The positional form always has a point.  The scientific form has one behind its first digit,
if others follow.  So a finite number is shown without a point exactly when its shortest
decimal has one digit, at a power of ten outside the range of the positional form.

Shortest digits are the fewest, so this can be said without them (`Bare`): some decimal of one
digit, at such a power, reads back as the number.  It matters here that no number has a decimal
of one digit both inside and outside that range.  What reads back has no gaps, so it is enough
to look at the ends of the range (`Parted`).

`point_mem_render_iff` is the law for both formats.
-/

namespace CheckHarness

namespace Decimal

/-! ## Points in written forms -/

theorem point_notMem_row {row : List Char} (digits : IsRow row) : '.' ∉ row := by
  intro mem
  cases digits '.' mem

theorem point_notMem_exponent (n : Int) : '.' ∉ (toString n).toList := by
  cases n with
  | ofNat n =>
      rw [toList_toString_ofNat]
      exact point_notMem_row (IsRow.toDigits n)
  | negSucc n =>
      rw [toList_toString_negSucc, List.mem_cons, not_or]
      exact ⟨by decide, point_notMem_row (IsRow.toDigits (n + 1))⟩

theorem point_mem_pointed (d : Decimal) : '.' ∈ d.pointed := by
  simp [pointed]

/-- The scientific form of one digit. -/
theorem scientific_of_digit {d : Decimal} {digit : Char} (digits : d.digits = [digit]) :
    d.scientific = digit :: 'e' :: (toString d.leading).toList := by
  simp only [scientific, digits]
  rfl

theorem point_mem_scientific_iff (d : Decimal) : '.' ∈ d.scientific ↔ 2 ≤ d.digits.length := by
  have row := d.isRow_digits
  match digits : d.digits with
  | [] => exact absurd digits d.digits_ne_nil
  | [digit] =>
      rw [digits] at row
      have exponent := point_notMem_exponent d.leading
      have differs := point_notMem_row row
      rw [scientific_of_digit digits]
      simp_all
  | first :: second :: rest =>
      simp [scientific, digits]

theorem point_mem_diagnostic_iff (d : Decimal) :
    '.' ∈ d.diagnostic ↔ d.isModerate = true ∨ 2 ≤ d.digits.length := by
  rw [diagnostic]
  split
  · rename_i moderate
    exact iff_of_true d.point_mem_pointed (Or.inl moderate)
  · rename_i outside
    rw [point_mem_scientific_iff, or_iff_right outside]

theorem isModerate_iff (d : Decimal) : d.isModerate = true ↔ -4 ≤ d.leading ∧ d.leading ≤ 15 := by
  simp only [isModerate, Bool.and_eq_true, decide_eq_true_eq]

/-- A decimal of one digit leads with its exponent. -/
theorem leading_of_length {d : Decimal} (single : d.digits.length = 1) :
    d.leading = d.exponent := by
  rw [leading, single]
  omega

theorem digits_of_lt {d : Decimal} (lt : d.coefficient < 10) :
    d.digits = [Nat.digitChar d.coefficient] :=
  Nat.toDigits_of_lt_base lt

theorem value_le_nine {d : Decimal} {exponent : Int} (le : d.coefficient ≤ 9)
    (low : d.exponent ≤ exponent) : d.value ≤ (⟨9, exponent⟩ : Decimal).value := by
  have digit : (d.coefficient : ℚ) ≤ (9 : Nat) := Nat.cast_le.mpr le
  have power : (10 : ℚ) ^ d.exponent ≤ 10 ^ exponent := zpow_le_zpow_right₀ (by norm_num) low
  exact mul_le_mul digit power (by positivity) (by positivity)

theorem one_le_value {d : Decimal} {exponent : Int} (pos : 1 ≤ d.coefficient)
    (high : exponent ≤ d.exponent) : (⟨1, exponent⟩ : Decimal).value ≤ d.value := by
  have digit : ((1 : Nat) : ℚ) ≤ d.coefficient := Nat.cast_le.mpr pos
  have power : (10 : ℚ) ^ exponent ≤ 10 ^ d.exponent := zpow_le_zpow_right₀ (by norm_num) high
  exact mul_le_mul digit power (by positivity) (by positivity)

end Decimal

/-- No number has a decimal of one digit on both sides of an end of the positional form. -/
structure Format.Parted (f : Format) : Prop where
  low : ∀ negative, Binary.ofDecimal f negative 9 (-5) ≠ Binary.ofDecimal f negative 1 (-4)
  high : ∀ negative, Binary.ofDecimal f negative 9 15 ≠ Binary.ofDecimal f negative 1 16

namespace Format

theorem parted_single : single.Parted := ⟨by decide +kernel, by decide +kernel⟩

theorem parted_double : double.Parted := ⟨by decide +kernel, by decide +kernel⟩

end Format

namespace Binary

variable {f : Format} {x : Binary f}

/-! ## Numbers of one digit -/

/-- The number is not zero, and is what a digit reads as at a power of ten too low or too high
for the positional form. -/
structure BareAt (x : Binary f) (digit : Nat) (exponent : Int) : Prop where
  nonzero : x.isZero = false
  pos : 1 ≤ digit
  le : digit ≤ 9
  outside : exponent < -4 ∨ 15 < exponent
  reads : ofDecimal f x.negative digit exponent = x

/-- Some digit reads as the number at such a power of ten. -/
def Bare (x : Binary f) : Prop := ∃ digit exponent, x.BareAt digit exponent

theorem finite_iff (x : Binary f) : x.Finite ↔ x.magnitude < f.infinity := by
  have fields := Format.two_pow_magnitudeBits f ▸ x.magnitude_lt
  have below := (x.exponentField_lt_iff (2 ^ f.exponentBits)).mpr (by rwa [Nat.mul_comm])
  rw [Format.infinity, ← exponentField_lt_iff, Finite]
  omega

/-- Without a point, the shortest decimal is one digit at a power outside the range. -/
theorem bareAt_shortest (proper : f.Proper) (finite : x.magnitude ≤ f.infinity)
    (outside : ¬x.shortest.isModerate = true) (few : ¬2 ≤ x.shortest.digits.length) :
    x.BareAt x.shortest.coefficient x.shortest.exponent ∧ x.shortest.digits.length = 1 := by
  have nonempty := List.length_pos_of_ne_nil x.shortest.digits_ne_nil
  have single : x.shortest.digits.length = 1 := by omega
  rw [Decimal.isModerate_iff, Decimal.leading_of_length single] at outside
  have nonzero : x.isZero = false := by
    by_contra zero
    rw [shortest, if_pos (by simpa using zero)] at outside
    exact outside (by decide)
  have reads := readsAs_shortest proper finite
  have digit := (Decimal.length_digits_le_iff Nat.one_pos).mp single.le
  exact ⟨⟨nonzero, coefficient_pos_of_readsAs nonzero reads, by omega, by omega,
    (readsAs_iff x _).mp reads⟩, single⟩

/-- What reads back as a number does not lie on both sides of two decimals that are not read
alike. -/
theorem not_readsAs_across (proper : f.Proper) {below low high above : Decimal}
    (apart : ofDecimal f x.negative low.coefficient low.exponent ≠
      ofDecimal f x.negative high.coefficient high.exponent)
    (first : below.value ≤ low.value) (middle : low.value ≤ high.value)
    (last : high.value ≤ above.value) (reads : x.readsAs below = true) :
    ¬x.readsAs above = true := by
  intro reads'
  have low := readsAs_of_between proper reads reads' first (middle.trans last)
  have high := readsAs_of_between proper reads reads' (first.trans middle) last
  rw [readsAs_iff] at low high
  exact apart (low.trans high.symm)

/-- A number of one digit outside the range has no decimal of one digit within. -/
theorem BareAt.not_within (proper : f.Proper) (parted : f.Parted) {digit : Nat} {exponent : Int}
    (bare : x.BareAt digit exponent) {d : Decimal} (reads : x.readsAs d = true)
    (pos : 1 ≤ d.coefficient) (le : d.coefficient ≤ 9) : ¬(-4 ≤ d.exponent ∧ d.exponent ≤ 15) := by
  rintro ⟨least, greatest⟩
  have reads' : x.readsAs ⟨digit, exponent⟩ = true := (readsAs_iff x _).mpr bare.reads
  rcases bare.outside with below | above
  · have low : exponent ≤ -5 := by omega
    have step : (⟨9, -5⟩ : Decimal).value ≤ (⟨1, -4⟩ : Decimal).value := by
      norm_num [Decimal.value]
    exact not_readsAs_across proper (parted.low x.negative)
      (Decimal.value_le_nine bare.le low) step (Decimal.one_le_value pos least) reads' reads
  · have high : 16 ≤ exponent := by omega
    have step : (⟨9, 15⟩ : Decimal).value ≤ (⟨1, 16⟩ : Decimal).value := by
      norm_num [Decimal.value]
    exact not_readsAs_across proper (parted.high x.negative)
      (Decimal.value_le_nine le greatest) step (Decimal.one_le_value bare.pos high) reads reads'

/-- The shortest decimal of a number of one digit outside the range. -/
theorem BareAt.shortest (proper : f.Proper) (parted : f.Parted) (finite : x.magnitude ≤ f.infinity)
    {digit : Nat} {exponent : Int} (bare : x.BareAt digit exponent) :
    ¬x.shortest.isModerate = true ∧ ¬2 ≤ x.shortest.digits.length := by
  have lt : digit < 10 := Nat.lt_succ_of_le bare.le
  have single : (⟨digit, exponent⟩ : Decimal).digits.length = 1 := by
    rw [Decimal.digits_of_lt lt]
    rfl
  have fewest := length_digits_shortest_le proper finite ((readsAs_iff x _).mpr bare.reads)
    (single.le.trans (by decide))
  have nonempty := List.length_pos_of_ne_nil x.shortest.digits_ne_nil
  have reads := readsAs_shortest proper finite
  have below := (Decimal.length_digits_le_iff Nat.one_pos).mp (fewest.trans single.le)
  refine ⟨?_, by omega⟩
  rw [Decimal.isModerate_iff, Decimal.leading_of_length (by omega)]
  exact bare.not_within proper parted reads (coefficient_pos_of_readsAs bare.nonzero reads)
    (by omega)

/-! ## Which texts have a point -/

theorem point_notMem_of_not_finite (infinite : ¬x.Finite) : '.' ∉ x.diagnostic.toList := by
  rw [finite_iff, Nat.not_lt] at infinite
  rcases Nat.lt_or_eq_of_le infinite with above | equal
  · rw [diagnostic, writeWith_of_isNaN _ (decide_eq_true above)]
    decide
  · rw [diagnostic, eq_infinity equal.symm, toList_writeWith_infinity]
    cases x.negative <;> decide

theorem toList_diagnostic (finite : x.Finite) :
    x.diagnostic.toList = Decimal.signed x.negative x.shortest.diagnostic :=
  toList_writeWith_of_finite _ (x.finite_iff.mp finite)

theorem point_mem_signed_iff {negative : Bool} {text : List Char} :
    '.' ∈ Decimal.signed negative text ↔ '.' ∈ text := by
  cases negative <;> simp [Decimal.signed]

/-- A text shows a point exactly if the number is finite and not bare.  If a finite number is
shown without a point, then as one digit and an exponent. -/
structure ShowsPoint (x : Binary f) (text : String) : Prop where
  iff : '.' ∈ text.toList ↔ x.Finite ∧ ¬x.Bare
  bare : x.Finite → '.' ∉ text.toList → ∃ digit exponent, x.BareAt digit exponent ∧
    text.toList =
      Decimal.signed x.negative (Nat.digitChar digit :: 'e' :: (toString exponent).toList)

/-- The diagnostic form shows a point wherever the shortest decimal calls for one. -/
theorem showsPoint_diagnostic (proper : f.Proper) (parted : f.Parted) (x : Binary f) :
    x.ShowsPoint x.diagnostic := by
  by_cases finite : x.Finite
  · have bounded := (x.finite_iff.mp finite).le
    have shows : '.' ∈ x.diagnostic.toList ↔
        x.shortest.isModerate = true ∨ 2 ≤ x.shortest.digits.length := by
      rw [toList_diagnostic finite, point_mem_signed_iff, Decimal.point_mem_diagnostic_iff]
    constructor
    · rw [shows, and_iff_right finite, iff_not_comm, not_or]
      constructor
      · rintro ⟨digit, exponent, bare⟩
        exact bare.shortest proper parted bounded
      · rintro ⟨outside, few⟩
        exact ⟨_, _, (bareAt_shortest proper bounded outside few).1⟩
    · intro _ none
      rw [shows, not_or] at none
      obtain ⟨bare, single⟩ := bareAt_shortest proper bounded none.1 none.2
      have digits := Decimal.digits_of_lt (Nat.lt_succ_of_le bare.le)
      refine ⟨_, _, bare, ?_⟩
      rw [toList_diagnostic finite, Decimal.diagnostic, if_neg none.1,
        Decimal.scientific_of_digit digits, Decimal.leading_of_length single]
  · refine ⟨iff_of_false (point_notMem_of_not_finite finite) fun shows => finite shows.1, ?_⟩
    exact fun finite' => absurd finite' finite

end Binary

namespace Value

/-- The law of the point, for floats of both formats. -/
theorem point_mem_render_iff (x : Single) (y : Double) :
    x.ShowsPoint (render (Value.float x)) ∧ y.ShowsPoint (render (Value.double y)) :=
  ⟨x.showsPoint_diagnostic Format.proper_single Format.parted_single,
    y.showsPoint_diagnostic Format.proper_double Format.parted_double⟩

/-- Ten to the sixteenth is finite and shows no point. -/
theorem point_notMem_render_ten_pow :
    let x : Double := .ofDecimal .double false 1 16
    x.Finite ∧ render (Value.double x) = "1e16" ∧ '.' ∉ (render (Value.double x)).toList := by
  intro x
  have text : render (Value.double x) = "1e16" := by decide +kernel
  refine ⟨Binary.finite_of_lt (by decide +kernel), text, ?_⟩
  rw [text]
  decide

end Value

end CheckHarness
