import CheckHarness.Binary.Numeral

/-!
# Reading numerals

A *row* is a list of digits.  A reader of numerals takes a row as long as it goes, so
a row in front of a text that starts with no digit is taken whole.  That is what the
lemmas here say, one for each reader.

* `integerOfText?_toString`: a written integer reads back.
* `decimalOfText?_row` and `decimalOfText?_point`: a row is read with the exponent
  behind it, and so are two rows around a point.
* `ofText?_of_row`: a text that starts with a digit is none of the words, so it is
  read as a decimal.
-/

namespace CheckHarness

/-! ## Rows of digits -/

/-- Every character is a digit. -/
def IsRow (text : List Char) : Prop := ∀ c ∈ text, c.isDigit = true

namespace IsRow

variable {row row' : List Char}

theorem nil : IsRow [] := by
  intro c mem
  cases mem

theorem append (digits : IsRow row) (digits' : IsRow row') : IsRow (row ++ row') := by
  intro c mem
  rcases List.mem_append.mp mem with mem | mem
  · exact digits c mem
  · exact digits' c mem

theorem take (digits : IsRow row) (n : Nat) : IsRow (row.take n) :=
  fun c mem => digits c (List.mem_of_mem_take mem)

theorem drop (digits : IsRow row) (n : Nat) : IsRow (row.drop n) :=
  fun c mem => digits c (List.mem_of_mem_drop mem)

theorem replicate_zero (n : Nat) : IsRow (List.replicate n '0') := by
  intro c mem
  rw [List.eq_of_mem_replicate mem]
  rfl

theorem toDigits (n : Nat) : IsRow (Nat.toDigits 10 n) :=
  fun _ mem => Nat.isDigit_of_mem_toDigits (by decide) (by decide) mem

theorem head {c : Char} (digits : IsRow (c :: row)) : c.isDigit = true :=
  digits c List.mem_cons_self

theorem digitsValue? (digits : IsRow row) (nonempty : row ≠ []) :
    digitsValue? row = some (Nat.ofDigitChars 10 row 0) :=
  if_pos ⟨nonempty, List.all_eq_true.mpr digits⟩

/-- A reader takes a row whole, and then what it takes of the rest. -/
theorem takeWhile_append (digits : IsRow row) (rest : List Char) :
    (row ++ rest).takeWhile Char.isDigit = row ++ rest.takeWhile Char.isDigit :=
  List.takeWhile_append_of_pos digits

theorem dropWhile_append (digits : IsRow row) (rest : List Char) :
    (row ++ rest).dropWhile Char.isDigit = rest.dropWhile Char.isDigit :=
  List.dropWhile_append_of_pos digits

end IsRow

/-- The text does not go on with a digit. -/
def StopsRow : List Char → Prop
  | [] => True
  | c :: _ => c.isDigit = false

theorem StopsRow.takeWhile {rest : List Char} (stops : StopsRow rest) :
    rest.takeWhile Char.isDigit = [] := by
  cases rest with
  | nil => rfl
  | cons c rest =>
      have stop : c.isDigit = false := stops
      rw [List.takeWhile_cons, stop]
      rfl

theorem StopsRow.dropWhile {rest : List Char} (stops : StopsRow rest) :
    rest.dropWhile Char.isDigit = rest := by
  cases rest with
  | nil => rfl
  | cons c rest =>
      have stop : c.isDigit = false := stops
      rw [List.dropWhile_cons, stop]
      rfl

/-! ## Integers -/

/-- A digit is no sign. -/
theorem splitSign_of_isDigit {c : Char} (digit : c.isDigit = true) (rest : List Char) :
    splitSign (c :: rest) = (false, c :: rest) := by
  have minus : c ≠ '-' := by
    rintro rfl
    cases digit
  have plus : c ≠ '+' := by
    rintro rfl
    cases digit
  unfold splitSign
  split
  · rename_i same
    exact absurd (List.cons.inj same).1 minus
  · rename_i same
    exact absurd (List.cons.inj same).1 plus
  · rfl

theorem integerOfText?_toDigits (n : Nat) :
    integerOfText? (Nat.toDigits 10 n) = some (n : Int) := by
  have digits := IsRow.toDigits n
  have value := digits.digitsValue? Nat.toDigits_ne_nil
  rw [Nat.ofDigitChars_ten_toDigits] at value
  cases row : Nat.toDigits 10 n with
  | nil => exact absurd row Nat.toDigits_ne_nil
  | cons c rest =>
      rw [row] at digits value
      simp only [integerOfText?, splitSign_of_isDigit digits.head, value]
      rfl

theorem integerOfText?_minus_toDigits (n : Nat) :
    integerOfText? ('-' :: Nat.toDigits 10 n) = some (-(n : Int)) := by
  have value := (IsRow.toDigits n).digitsValue? Nat.toDigits_ne_nil
  rw [Nat.ofDigitChars_ten_toDigits] at value
  simp only [integerOfText?, splitSign, value]
  rfl

theorem toList_toString_ofNat (n : Nat) :
    (toString (Int.ofNat n)).toList = Nat.toDigits 10 n :=
  Nat.toList_repr

theorem toList_toString_negSucc (n : Nat) :
    (toString (Int.negSucc n)).toList = '-' :: Nat.toDigits 10 (n + 1) := by
  have below : ¬ 0 ≤ Int.negSucc n := Int.negSucc_not_nonneg n |>.mp
  rw [Int.toString_eq_repr, Int.repr_eq_if, if_neg below, String.toList_append, Nat.toList_repr]
  rfl

/-- A written integer reads back. -/
theorem integerOfText?_toString (n : Int) : integerOfText? (toString n).toList = some n := by
  cases n with
  | ofNat n => rw [toList_toString_ofNat, integerOfText?_toDigits, Int.ofNat_eq_natCast]
  | negSucc n =>
      rw [toList_toString_negSucc, integerOfText?_minus_toDigits]
      rfl

namespace Numeral

/-! ## Decimals -/

/-- An exponent that is written behind its mark reads back. -/
theorem exponentOfText?_toString (n : Int) :
    exponentOfText? ('e' :: (toString n).toList) = some n := by
  have mark : ('e' : Char).toLower = 'e' := rfl
  rw [exponentOfText?, if_pos mark, integerOfText?_toString]

/-- What does not go on with a point has no fraction. -/
theorem splitFraction_of_ne {rest : List Char} (stops : rest.head? ≠ some '.') :
    splitFraction rest = ([], rest) := by
  cases rest with
  | nil => rfl
  | cons c rest =>
      have point : c ≠ '.' := by
        rintro rfl
        exact stops rfl
      unfold splitFraction
      split
      · rename_i same
        exact absurd (List.cons.inj same).1 point
      · rfl

/-- A row with an exponent behind it. -/
theorem decimalOfText?_row (negative : Bool) {whole rest : List Char} {exponent : Int}
    (digits : IsRow whole) (nonempty : whole ≠ []) (stops : StopsRow rest)
    (point : rest.head? ≠ some '.') (behind : exponentOfText? rest = some exponent) :
    decimalOfText? negative (whole ++ rest) =
      some (.finite negative (Nat.ofDigitChars 10 whole 0) exponent) := by
  simp [decimalOfText?, digits.takeWhile_append, digits.dropWhile_append, stops.takeWhile,
    stops.dropWhile, splitFraction_of_ne point, digits.digitsValue? nonempty, behind]

/-- Two rows around a point with an exponent behind them. -/
theorem decimalOfText?_point (negative : Bool) {whole fraction rest : List Char} {exponent : Int}
    (digits : IsRow whole) (digits' : IsRow fraction) (nonempty : whole ++ fraction ≠ [])
    (stops : StopsRow rest) (behind : exponentOfText? rest = some exponent) :
    decimalOfText? negative (whole ++ '.' :: (fraction ++ rest)) =
      some (.finite negative (Nat.ofDigitChars 10 (whole ++ fraction) 0)
        (exponent - fraction.length)) := by
  have point : StopsRow ('.' :: (fraction ++ rest)) := rfl
  simp [decimalOfText?, digits.takeWhile_append, digits.dropWhile_append, point.takeWhile,
    point.dropWhile, splitFraction, digits'.takeWhile_append, digits'.dropWhile_append,
    stops.takeWhile, stops.dropWhile, (digits.append digits').digitsValue? nonempty, behind]

/-! ## Words -/

/-- A digit is in lower case, and the words start with no digit. -/
theorem map_toLower_ne_of_isDigit {c : Char} (digit : c.isDigit = true) (rest : List Char)
    {first : Char} {others : List Char} (letter : first.isDigit = false) :
    (c :: rest).map Char.toLower ≠ first :: others := by
  have lower : c.toLower = c := by
    have upper : ¬ (c.val ≥ 'A'.val ∧ c.val ≤ 'Z'.val) := by
      simp only [Char.isDigit, Bool.and_eq_true, decide_eq_true_eq] at digit
      rintro ⟨above, _⟩
      exact absurd (UInt32.le_trans above digit.2) (by decide)
    exact dif_neg upper
  intro same
  rw [List.map_cons, lower] at same
  injection same with head
  rw [head, letter] at digit
  cases digit

/-- A text that starts with a digit is read as a decimal. -/
theorem ofText?_of_row {row rest : List Char} (digits : IsRow row) (nonempty : row ≠ [])
    (sign : Bool) :
    ofText? ((if sign then ['-'] else []) ++ (row ++ rest)) =
      decimalOfText? sign (row ++ rest) := by
  cases row with
  | nil => exact absurd rfl nonempty
  | cons c row =>
      have digit := digits.head
      have split : splitSign ((if sign then ['-'] else []) ++ (c :: row ++ rest)) =
          (sign, c :: (row ++ rest)) := by
        cases sign with
        | true => rfl
        | false => exact splitSign_of_isDigit digit _
      have inf : ¬ ((c :: (row ++ rest)).map Char.toLower = "inf".toList ∨
          (c :: (row ++ rest)).map Char.toLower = "infinity".toList) := by
        rintro (word | word)
        · exact map_toLower_ne_of_isDigit digit _ rfl word
        · exact map_toLower_ne_of_isDigit digit _ rfl word
      have nan : ¬ (c :: (row ++ rest)).map Char.toLower = "nan".toList :=
        fun word => map_toLower_ne_of_isDigit digit _ rfl word
      simp only [ofText?, split, if_neg inf, if_neg nan]
      rfl

end Numeral

end CheckHarness
