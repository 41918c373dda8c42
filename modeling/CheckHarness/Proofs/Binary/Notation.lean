import CheckHarness.Binary.Notation
import CheckHarness.Proofs.Binary.Numeral
import CheckHarness.Proofs.Binary.Shortest
import CheckHarness.Proofs.Value.Agreement

/-!
# Written numbers read back

A decimal is written as rows of digits: two around a point, or the digits with an
exponent behind them.  A text *spells* a decimal when it is read as a decimal of the
same value, under a sign or none.

* `spells_pointed` and `spells_scientific`: both forms spell the decimal, so the
  diagnostic form does wherever the change between them lies (`spells_diagnostic`).  The
  plain form does too (`spells_plain`).
* `ofNumeral_writeWith`: in a form that spells decimals any number reads back as the
  number, and what is no number as the one pattern that stands for all of them.  So such a
  form tells numbers apart exactly when they do not agree (`writeWith_eq_iff`).
-/

namespace CheckHarness

namespace Decimal

/-! ## Rows of a decimal -/

theorem isRow_digits (d : Decimal) : IsRow d.digits := IsRow.toDigits _

theorem digits_ne_nil (d : Decimal) : d.digits ≠ [] := Nat.toDigits_ne_nil

theorem ofDigitChars_digits (d : Decimal) : Nat.ofDigitChars 10 d.digits 0 = d.coefficient :=
  Nat.ofDigitChars_ten_toDigits

theorem isRow_zeros (n : Int) : IsRow (zeros n) := IsRow.replicate_zero _

/-- Zeros in front of a row do not count. -/
theorem ofDigitChars_zeros_append (n : Int) (row : List Char) :
    Nat.ofDigitChars 10 (zeros n ++ row) 0 = Nat.ofDigitChars 10 row 0 := by
  rw [zeros, Nat.ofDigitChars_append, Nat.ofDigitChars_replicate_zero, Nat.mul_zero]

theorem ofDigitChars_append_zeros (row : List Char) (n : Int) :
    Nat.ofDigitChars 10 (row ++ zeros n) 0 = 10 ^ n.toNat * Nat.ofDigitChars 10 row 0 := by
  rw [zeros, Nat.ofDigitChars_append, Nat.ofDigitChars_replicate_zero]

/-! ## Around the point -/

theorem parts_of_low {d : Decimal} (low : d.digits.length + d.exponent ≤ 0) :
    d.parts = (['0'], zeros (-(d.digits.length + d.exponent)) ++ d.digits) :=
  if_pos low

theorem parts_of_high {d : Decimal} (high : 0 < d.digits.length + d.exponent) :
    d.parts = (d.digits.take (d.digits.length + d.exponent).toNat ++ zeros d.exponent,
      d.digits.drop (d.digits.length + d.exponent).toNat) :=
  if_neg (Int.not_le.mpr high)

theorem isRow_parts (d : Decimal) : IsRow d.parts.1 ∧ IsRow d.parts.2 := by
  rcases Int.lt_or_le 0 (d.digits.length + d.exponent) with high | low
  · rw [parts_of_high high]
    exact ⟨(d.isRow_digits.take _).append (isRow_zeros _), d.isRow_digits.drop _⟩
  · rw [parts_of_low low]
    exact ⟨IsRow.replicate_zero 1, (isRow_zeros _).append d.isRow_digits⟩

theorem whole_ne_nil (d : Decimal) : d.parts.1 ≠ [] := by
  rcases Int.lt_or_le 0 (d.digits.length + d.exponent) with high | low
  · rw [parts_of_high high]
    refine List.append_ne_nil_of_left_ne_nil ?_ _
    intro none
    rcases List.take_eq_nil_iff.mp none with none | none
    · omega
    · exact d.digits_ne_nil none
  · rw [parts_of_low low]
    exact List.cons_ne_nil _ _

/-- The digits around the point keep the value. -/
theorem value_parts (d : Decimal) :
    (⟨Nat.ofDigitChars 10 (d.parts.1 ++ d.parts.2) 0, -(d.parts.2.length : Int)⟩ :
      Decimal).value = d.value := by
  rcases Int.lt_or_le 0 (d.digits.length + d.exponent) with high | low
  · rw [parts_of_high high]
    rcases Int.lt_or_le d.exponent 0 with fraction | whole
    · -- All digits are there, and the point is among them.
      have none : zeros d.exponent = [] := by
        rw [zeros, Int.toNat_of_nonpos (Int.le_of_lt fraction)]
        rfl
      have length : -((d.digits.drop (d.digits.length + d.exponent).toNat).length : Int) =
          d.exponent := by
        rw [List.length_drop]
        omega
      rw [none, List.append_nil, List.take_append_drop, ofDigitChars_digits, length]
    · -- No digit is left for the fraction, and zeros fill up the whole part.
      have all : d.digits.length ≤ (d.digits.length + d.exponent).toNat := by omega
      have power : (d.exponent.toNat : Int) = d.exponent := by omega
      rw [List.take_of_length_le all, List.drop_of_length_le all, List.append_nil,
        ofDigitChars_append_zeros, ofDigitChars_digits, value_pow_mul, power]
      simp
  · rw [parts_of_low low]
    have length : -((zeros (-(d.digits.length + d.exponent)) ++ d.digits).length : Int) =
        d.exponent := by
      rw [List.length_append, zeros, List.length_replicate]
      omega
    have front : ['0'] = zeros 1 := rfl
    rw [length, front, ofDigitChars_zeros_append, ofDigitChars_zeros_append, ofDigitChars_digits]

/-! ## Written forms -/

/-- A sign in front of a text. -/
def signed (negative : Bool) (text : List Char) : List Char :=
  (if negative then ['-'] else []) ++ text

/-- The text is read as a decimal of the value of the given one, under either sign. -/
def Spells (text : List Char) (d : Decimal) : Prop :=
  ∃ d' : Decimal, d'.value = d.value ∧ ∀ negative,
    Numeral.ofText? (signed negative text) =
      some (.finite negative d'.coefficient d'.exponent)

/-- Two rows around a point spell the decimal of their digits. -/
theorem spells_point {whole fraction rest : List Char} {exponent : Int} {d : Decimal}
    (digits : IsRow whole) (digits' : IsRow fraction) (nonempty : whole ≠ [])
    (stops : StopsRow rest) (behind : Numeral.exponentOfText? rest = some exponent)
    (value : (⟨Nat.ofDigitChars 10 (whole ++ fraction) 0, exponent - fraction.length⟩ :
      Decimal).value = d.value) :
    Spells (whole ++ '.' :: (fraction ++ rest)) d := by
  refine ⟨_, value, ?_⟩
  intro negative
  rw [signed, Numeral.ofText?_of_row digits nonempty]
  exact Numeral.decimalOfText?_point negative digits digits'
    (List.append_ne_nil_of_left_ne_nil nonempty _) stops behind

theorem spells_row {whole rest : List Char} {exponent : Int} {d : Decimal}
    (digits : IsRow whole) (nonempty : whole ≠ []) (stops : StopsRow rest)
    (point : rest.head? ≠ some '.') (behind : Numeral.exponentOfText? rest = some exponent)
    (value : (⟨Nat.ofDigitChars 10 whole 0, exponent⟩ : Decimal).value = d.value) :
    Spells (whole ++ rest) d := by
  refine ⟨_, value, ?_⟩
  intro negative
  rw [signed, Numeral.ofText?_of_row digits nonempty]
  exact Numeral.decimalOfText?_row negative digits nonempty stops point behind

theorem spells_pointed (d : Decimal) : Spells d.pointed d := by
  obtain ⟨whole, fraction⟩ := d.isRow_parts
  have value := d.value_parts
  by_cases none : d.parts.2 = []
  · have text : d.pointed = d.parts.1 ++ '.' :: (['0'] ++ []) := by
      simp only [pointed, if_pos none]
      rfl
    rw [text]
    refine spells_point whole (IsRow.replicate_zero 1) d.whole_ne_nil trivial rfl ?_
    -- The zero behind the point makes up for the step of the exponent.
    have zero : ['0'] = zeros 1 := rfl
    rw [none, List.append_nil] at value
    rw [zero, ofDigitChars_append_zeros, Int.toNat_one, value_pow_mul, ← value]
    rfl
  · have text : d.pointed = d.parts.1 ++ '.' :: (d.parts.2 ++ []) := by
      simp only [pointed, if_neg none, List.append_nil]
    rw [text]
    refine spells_point whole fraction d.whole_ne_nil trivial rfl ?_
    rw [Int.zero_sub]
    exact value

theorem spells_plain (d : Decimal) : Spells d.plain d := by
  obtain ⟨whole, fraction⟩ := d.isRow_parts
  have value := d.value_parts
  by_cases none : d.parts.2 = []
  · have text : d.plain = d.parts.1 ++ [] := by
      simp only [plain, if_pos none, List.append_nil]
    rw [text]
    refine spells_row whole d.whole_ne_nil trivial nofun rfl ?_
    rw [none, List.append_nil] at value
    exact value
  · have text : d.plain = d.parts.1 ++ '.' :: (d.parts.2 ++ []) := by
      simp only [plain, if_neg none, List.append_nil]
    rw [text]
    refine spells_point whole fraction d.whole_ne_nil trivial rfl ?_
    rw [Int.zero_sub]
    exact value

theorem spells_scientific (d : Decimal) : Spells d.scientific d := by
  have row := d.isRow_digits
  have coefficient := d.ofDigitChars_digits
  have behind := Numeral.exponentOfText?_toString d.leading
  have stops : StopsRow ('e' :: (toString d.leading).toList) := rfl
  match digits : d.digits with
  | [] => exact absurd digits d.digits_ne_nil
  | [first] =>
      have text : d.scientific = [first] ++ 'e' :: (toString d.leading).toList := by
        simp only [scientific, digits]
      have leading : d.leading = d.exponent := by
        rw [Decimal.leading, digits, List.length_singleton]
        omega
      rw [digits] at row coefficient
      rw [text]
      refine spells_row row (List.cons_ne_nil _ _) stops (by simp) behind ?_
      rw [coefficient, leading]
  | first :: second :: rest =>
      have text : d.scientific =
          [first] ++ '.' :: (second :: rest ++ 'e' :: (toString d.leading).toList) := by
        simp only [scientific, digits]
        rfl
      have leading : d.leading - (second :: rest).length = d.exponent := by
        have length : (first :: second :: rest).length = (second :: rest).length + 1 := rfl
        rw [Decimal.leading, digits, length]
        omega
      rw [digits] at row coefficient
      rw [text]
      refine spells_point (row.take 1) (row.drop 1) (List.cons_ne_nil _ _) stops behind ?_
      rw [List.singleton_append, coefficient, leading]

/-- Wherever the forms change, the diagnostic form spells the decimal. -/
theorem spells_diagnostic (d : Decimal) : Spells d.diagnostic d := by
  rw [diagnostic]
  split
  · exact d.spells_pointed
  · exact d.spells_scientific

end Decimal

namespace Binary

variable {f : Format}

/-! ## Numbers -/

/-- The three texts of a number: what is no number, an infinity, and a finite number. -/
theorem writeWith_of_isNaN (write : Decimal → List Char) {x : Binary f} (nan : x.isNaN = true) :
    x.writeWith write = "NaN" :=
  if_pos nan

theorem toList_writeWith_infinity (write : Decimal → List Char) (negative : Bool) :
    ((infinity f negative).writeWith write).toList = Decimal.signed negative "inf".toList := by
  have number : ¬ (infinity f negative).isNaN = true := by simp
  have infinite : (infinity f negative).isInfinite = true := beq_self_eq_true _
  simp only [writeWith, if_neg number, if_pos infinite, String.toList_ofList]
  rfl

theorem toList_writeWith_of_finite (write : Decimal → List Char) {x : Binary f}
    (finite : x.magnitude < f.infinity) :
    (x.writeWith write).toList = Decimal.signed x.negative (write x.shortest) := by
  have number : ¬ f.infinity < x.magnitude := Nat.not_lt.mpr (Nat.le_of_lt finite)
  simp [writeWith, isNaN, isInfinite, number, Nat.ne_of_lt finite, Decimal.signed]

theorem ofText?_infinity (negative : Bool) :
    Numeral.ofText? (Decimal.signed negative "inf".toList) = some (.infinite negative) := by
  cases negative with
  | false => rfl
  | true => rfl

/-- A text that spells the shortest decimal of a finite number reads back. -/
theorem ofNumeral_of_spells (proper : f.Proper) {x : Binary f} (finite : x.magnitude ≤ f.infinity)
    {text : List Char} (spells : Decimal.Spells text x.shortest) :
    (Numeral.ofText? (Decimal.signed x.negative text)).map (ofNumeral f) = some x := by
  obtain ⟨d, value, read⟩ := spells
  have reads := (readsAs_iff x d).mp
    (readsAs_congr proper value (readsAs_shortest proper finite))
  rw [read, Option.map_some, ofNumeral, reads]

section Forms

variable {write : Decimal → List Char}

/-- A number in a form that spells decimals reads back, with one pattern for all that are no
number. -/
theorem ofNumeral_writeWith (spells : ∀ d, Decimal.Spells (write d) d) (proper : f.Proper)
    (x : Binary f) :
    (Numeral.ofText? (x.writeWith write).toList).map (ofNumeral f) = some x.canonical := by
  rcases Nat.lt_trichotomy x.magnitude f.infinity with finite | infinite | above
  · have number : ¬ x.isNaN = true := by simp [isNaN, Nat.le_of_lt finite]
    rw [toList_writeWith_of_finite _ finite, canonical, if_neg number]
    exact ofNumeral_of_spells proper (Nat.le_of_lt finite) (spells x.shortest)
  · rw [eq_infinity infinite, toList_writeWith_infinity, ofText?_infinity, canonical,
      isNaN_infinity]
    rfl
  · have nan : x.isNaN = true := decide_eq_true above
    rw [writeWith_of_isNaN _ nan, canonical, if_pos nan]
    rfl

/-- A number is written as its canonical form is. -/
theorem writeWith_canonical (write : Decimal → List Char) (proper : f.Proper) (x : Binary f) :
    x.canonical.writeWith write = x.writeWith write := by
  cases nan : x.isNaN with
  | true =>
      have last := isNaN_nan proper false
      rw [canonical, if_pos nan, writeWith_of_isNaN _ last, writeWith_of_isNaN _ nan]
  | false => simp [canonical, nan]

/-- Numbers are written alike exactly when they agree. -/
theorem writeWith_eq_iff (spells : ∀ d, Decimal.Spells (write d) d) (proper : f.Proper)
    (x y : Binary f) : x.writeWith write = y.writeWith write ↔ x.agrees y = true := by
  rw [agrees_iff_canonical proper]
  constructor
  · intro alike
    have read := ofNumeral_writeWith spells proper x
    rw [alike, ofNumeral_writeWith spells proper y] at read
    exact (Option.some.inj read).symm
  · intro same
    rw [← writeWith_canonical write proper x, same, writeWith_canonical]
    exact proper

end Forms

/-- The diagnostic form of a number reads back. -/
theorem ofNumeral_diagnostic (proper : f.Proper) (x : Binary f) :
    (Numeral.ofText? x.diagnostic.toList).map (ofNumeral f) = some x.canonical :=
  ofNumeral_writeWith Decimal.spells_diagnostic proper x

end Binary

end CheckHarness
