import CheckHarness.Proofs.Binary.Notation
import CheckHarness.Proofs.Command.Operands

/-!
# How numbers are spelled

An integer is spelled with a sign, which may be left out, and a row of digits.  A decimal
may have a point among its digits and an exponent behind them.  The words for infinity and
for what is no number may stand behind a sign too, in any letter case (`IsWordIn`).
`IntegerText` and `DecimalText` are texts with the parts they are put together from, and
`IsNumber` says of a text that it is one of a number.

The readers know these texts and no others.

* `integerOfText?_eq_some_iff`: a text is read as an integer exactly when it spells it.
* `ofText?_decimal`, `ofText?_infinite` and `ofText?_notANumber`: what each kind of text is
  read as.
* `ofText?_isSome_iff`: nothing else is read.
-/

namespace CheckHarness

/-! ## Signs -/

/-- The sign in front of a number, which may be left out. -/
inductive Sign where
  | absent
  | plus
  | minus
deriving DecidableEq, Repr

namespace Sign

/-- The sign as it stands in a text. -/
def text : Sign → List Char
  | absent => []
  | plus => ['+']
  | minus => ['-']

/-- Whether the number is under a minus. -/
def negative : Sign → Bool
  | absent | plus => false
  | minus => true

/-- The number with the sign in front. -/
def apply {α : Type} [Neg α] : Sign → α → α
  | absent, x | plus, x => x
  | minus, x => -x

theorem apply_eq {α : Type} [Neg α] (sign : Sign) (x : α) :
    sign.apply x = if sign.negative then -x else x := by
  cases sign <;> rfl

end Sign

/-- The text does not start with a sign. -/
def StartsUnsigned : List Char → Prop
  | [] => True
  | c :: _ => c ≠ '+' ∧ c ≠ '-'

theorem splitSign_of_startsUnsigned {rest : List Char} (unsigned : StartsUnsigned rest) :
    splitSign rest = (false, rest) := by
  unfold splitSign
  split
  · exact absurd rfl unsigned.2
  · exact absurd rfl unsigned.1
  · rfl

/-- A sign is split off what does not start with another. -/
theorem splitSign_text {rest : List Char} (unsigned : StartsUnsigned rest) (sign : Sign) :
    splitSign (sign.text ++ rest) = (sign.negative, rest) := by
  cases sign with
  | absent => exact splitSign_of_startsUnsigned unsigned
  | plus => rfl
  | minus => rfl

/-- Every text is a sign and what is behind it. -/
theorem exists_sign (text : List Char) :
    ∃ sign : Sign, text = sign.text ++ (splitSign text).2 ∧
      (splitSign text).1 = sign.negative := by
  unfold splitSign
  split
  · exact ⟨.minus, rfl, rfl⟩
  · exact ⟨.plus, rfl, rfl⟩
  · exact ⟨.absent, rfl, rfl⟩

theorem IsRow.startsUnsigned {row : List Char} (digits : IsRow row) : StartsUnsigned row := by
  cases row with
  | nil => trivial
  | cons c rest =>
      constructor
      · rintro rfl
        cases digits.head
      · rintro rfl
        cases digits.head

/-! ## Integers -/

theorem integerOfText?_eq (text : List Char) :
    integerOfText? text = (digitsValue? (splitSign text).2).map fun n : Nat =>
      if (splitSign text).1 then -(n : Int) else n := by
  rw [integerOfText?]
  obtain ⟨negative, rest⟩ := splitSign text
  dsimp only
  cases digitsValue? rest <;> rfl

/-- An integer as it is spelled. -/
structure IntegerText where
  sign : Sign
  digits : List Char
  row : IsRow digits
  nonempty : digits ≠ []

namespace IntegerText

/-- The spelled text. -/
def text (t : IntegerText) : List Char := t.sign.text ++ t.digits

/-- The integer that is spelled. -/
def value (t : IntegerText) : Int := t.sign.apply (Nat.ofDigitChars 10 t.digits 0 : Int)

theorem integerOfText?_text (t : IntegerText) : integerOfText? t.text = some t.value := by
  rw [integerOfText?_eq, text, splitSign_text t.row.startsUnsigned,
    t.row.digitsValue? t.nonempty, Option.map_some, value, Sign.apply_eq]

end IntegerText

/-- A text is read as an integer exactly when it spells the integer. -/
theorem integerOfText?_eq_some_iff {text : List Char} {n : Int} :
    integerOfText? text = some n ↔ ∃ t : IntegerText, t.text = text ∧ t.value = n := by
  constructor
  · intro read
    obtain ⟨sign, split, negative⟩ := exists_sign text
    rw [integerOfText?_eq, Option.map_eq_some_iff] at read
    obtain ⟨value, digits, rfl⟩ := read
    obtain ⟨nonempty, row⟩ := Command.row_of_digitsValue? digits
    refine ⟨⟨sign, _, row, nonempty⟩, split.symm, ?_⟩
    rw [row.digitsValue? nonempty] at digits
    rw [IntegerText.value, Sign.apply_eq, negative, Option.some.inj digits]
  · rintro ⟨t, rfl, rfl⟩
    exact t.integerOfText?_text

/-! ## Words in any letter case -/

/-- The text is the word, each letter in either case. -/
def IsWordIn (word text : List Char) : Prop :=
  List.Forall₂ (fun c d => c = d ∨ c = d.toUpper) text word

theorem toLower_eq_iff {c d : Char} (lower : d.isLower = true) :
    c.toLower = d ↔ c = d ∨ c = d.toUpper := by
  obtain ⟨least, greatest⟩ := Bool.and_eq_true_iff.mp lower
  have range : 'a'.val ≤ d.val ∧ d.val ≤ 'z'.val :=
    ⟨of_decide_eq_true least, of_decide_eq_true greatest⟩
  have above : 97 ≤ d.val.toNat := UInt32.le_iff_toNat_le.mp range.1
  have below : d.val.toNat ≤ 122 := UInt32.le_iff_toNat_le.mp range.2
  have upper : d.toUpper.val.toNat = d.val.toNat - 32 := by
    have shifted : d.toUpper = _ := dif_pos range
    have shift : ('A'.val - 'a'.val).toNat = 2 ^ 32 - 32 := rfl
    rw [shifted]
    show (d.val + ('A'.val - 'a'.val)).toNat = _
    rw [UInt32.toNat_add]
    omega
  simp only [Char.ext_iff, ← UInt32.toNat_inj, upper]
  by_cases capital : c.val ≥ 'A'.val ∧ c.val ≤ 'Z'.val
  · have shifted : c.toLower = _ := dif_pos capital
    have least : 65 ≤ c.val.toNat := UInt32.le_iff_toNat_le.mp capital.1
    have greatest : c.val.toNat ≤ 90 := UInt32.le_iff_toNat_le.mp capital.2
    have shift : ('a'.val - 'A'.val).toNat = 32 := rfl
    rw [shifted]
    show (c.val + ('a'.val - 'A'.val)).toNat = _ ↔ _
    rw [UInt32.toNat_add]
    omega
  · have same : c.toLower = c := dif_neg capital
    have other : ¬ (65 ≤ c.val.toNat ∧ c.val.toNat ≤ 90) := fun within =>
      capital ⟨UInt32.le_iff_toNat_le.mpr within.1, UInt32.le_iff_toNat_le.mpr within.2⟩
    rw [same]
    omega

/-- Words in small letters are known by their letters in lower case. -/
theorem isWordIn_iff {word text : List Char} (lower : word.all Char.isLower = true) :
    IsWordIn word text ↔ text.map Char.toLower = word := by
  induction text generalizing word with
  | nil => cases word <;> simp [IsWordIn]
  | cons c text ih =>
      cases word with
      | nil => simp [IsWordIn]
      | cons d word =>
          rw [List.all_cons, Bool.and_eq_true] at lower
          have rest := ih lower.2
          rw [IsWordIn] at rest
          rw [IsWordIn, List.forall₂_cons, rest, List.map_cons, List.cons.injEq,
            toLower_eq_iff lower.1]

/-! ## Decimals -/

/-- The exponent of a decimal, behind its mark. -/
structure ExponentText where
  mark : Char
  power : IntegerText
  marks : mark = 'e' ∨ mark = 'E'

/-- A decimal as it is spelled.  The digits behind the point and the exponent may be left
out, but some digit must be there. -/
structure DecimalText where
  sign : Sign
  whole : List Char
  /-- The digits behind the point, if there is a point. -/
  fraction : Option (List Char)
  exponent : Option ExponentText
  whole_row : IsRow whole
  fraction_row : IsRow (fraction.getD [])
  nonempty : whole ++ fraction.getD [] ≠ []

/-- The point with the digits behind it. -/
def pointText : Option (List Char) → List Char
  | none => []
  | some digits => '.' :: digits

/-- The mark of an exponent with the exponent behind it. -/
def exponentText : Option ExponentText → List Char
  | none => []
  | some e => e.mark :: e.power.text

/-- The power of ten an exponent stands for, which is zero when it is left out. -/
def exponentValue : Option ExponentText → Int
  | none => 0
  | some e => e.power.value

theorem toLower_mark (e : ExponentText) : e.mark.toLower = 'e' :=
  (toLower_eq_iff rfl).mpr e.marks

/-- An exponent is read exactly when it is spelled, or when nothing is left. -/
theorem exponentOfText?_eq_some_iff {text : List Char} {n : Int} :
    Numeral.exponentOfText? text = some n ↔
      ∃ e, exponentText e = text ∧ exponentValue e = n := by
  cases text with
  | nil =>
      refine ⟨fun read => ⟨none, rfl, Option.some.inj read⟩, ?_⟩
      rintro ⟨_ | e, spelled, rfl⟩
      · rfl
      · cases spelled
  | cons c rest =>
      rw [Numeral.exponentOfText?]
      split
      · rename_i lower
        rw [integerOfText?_eq_some_iff]
        constructor
        · rintro ⟨t, rfl, rfl⟩
          exact ⟨some ⟨c, t, (toLower_eq_iff rfl).mp lower⟩, rfl, rfl⟩
        · rintro ⟨_ | e, spelled, rfl⟩
          · cases spelled
          · obtain ⟨-, power⟩ := List.cons.inj spelled
            exact ⟨e.power, power, rfl⟩
      · rename_i other
        refine ⟨fun read => (Option.some_ne_none n read.symm).elim, ?_⟩
        rintro ⟨_ | e, spelled, -⟩
        · cases spelled
        · obtain ⟨rfl, -⟩ := List.cons.inj spelled
          exact absurd (toLower_mark e) other

/-- Neither a digit nor a point starts an exponent. -/
theorem exponentText_stops (e : Option ExponentText) :
    StopsRow (exponentText e) ∧ (exponentText e).head? ≠ some '.' := by
  cases e with
  | none => exact ⟨trivial, nofun⟩
  | some e =>
      have stops : e.mark.isDigit = false ∧ e.mark ≠ '.' := by
        rcases e.marks with mark | mark <;> rw [mark] <;> decide
      exact ⟨stops.1, fun head => stops.2 (Option.some.inj head)⟩

namespace DecimalText

/-- What stands behind the sign. -/
def body (t : DecimalText) : List Char :=
  t.whole ++ (pointText t.fraction ++ exponentText t.exponent)

/-- The spelled text. -/
def text (t : DecimalText) : List Char := t.sign.text ++ t.body

/-- All digits in front of the exponent. -/
def digits (t : DecimalText) : List Char := t.whole ++ t.fraction.getD []

/-- The power of ten that the last digit in front of the exponent stands for. -/
def scale (t : DecimalText) : Int := exponentValue t.exponent - (t.fraction.getD []).length

/-- The value without its sign: the whole part and the fraction, times the power of ten of
the exponent. -/
def magnitude (t : DecimalText) : ℚ :=
  (Nat.ofDigitChars 10 t.whole 0 +
      Nat.ofDigitChars 10 (t.fraction.getD []) 0 / 10 ^ (t.fraction.getD []).length) *
    10 ^ exponentValue t.exponent

/-- The exact value that is spelled. -/
def value (t : DecimalText) : ℚ := t.sign.apply t.magnitude

theorem magnitude_eq (t : DecimalText) :
    t.magnitude = (⟨Nat.ofDigitChars 10 t.digits 0, t.scale⟩ : Decimal).value := by
  have ten : (10 : ℚ) ≠ 0 := by norm_num
  have joined : Nat.ofDigitChars 10 t.digits 0 =
      10 ^ (t.fraction.getD []).length * Nat.ofDigitChars 10 t.whole 0 +
        Nat.ofDigitChars 10 (t.fraction.getD []) 0 := by
    rw [digits, Nat.ofDigitChars_append, Nat.ofDigitChars_eq_ofDigitChars_zero]
  rw [magnitude, Decimal.value, joined, scale, zpow_sub₀ ten, zpow_natCast]
  push_cast
  field_simp

/-- The readers of the parts take the body apart. -/
theorem decimalOfText?_body (t : DecimalText) (negative : Bool) :
    Numeral.decimalOfText? negative t.body =
      some (.finite negative (Nat.ofDigitChars 10 t.digits 0) t.scale) := by
  obtain ⟨stops, point⟩ := exponentText_stops t.exponent
  have behind : Numeral.exponentOfText? (exponentText t.exponent) =
      some (exponentValue t.exponent) := exponentOfText?_eq_some_iff.mpr ⟨_, rfl, rfl⟩
  obtain ⟨sign, whole, fraction, exponent, whole_row, fraction_row, nonempty⟩ := t
  cases fraction with
  | none =>
      rw [Option.getD_none, List.append_nil] at nonempty
      have read := Numeral.decimalOfText?_row negative whole_row nonempty stops point behind
      simpa [body, digits, scale, pointText] using read
  | some fraction =>
      exact Numeral.decimalOfText?_point negative whole_row fraction_row nonempty stops behind

end DecimalText

theorem isRow_takeWhile (text : List Char) : IsRow (text.takeWhile Char.isDigit) :=
  List.all_eq_true.mp List.all_takeWhile

/-- What stands behind a row of digits is a point with its fraction, or has no point. -/
theorem exists_fraction (text : List Char) :
    ∃ fraction, text = pointText fraction ++ (Numeral.splitFraction text).2 ∧
      (Numeral.splitFraction text).1 = fraction.getD [] ∧ IsRow (fraction.getD []) := by
  unfold Numeral.splitFraction
  split
  · rename_i rest
    refine ⟨some (rest.takeWhile Char.isDigit), ?_, rfl, isRow_takeWhile rest⟩
    rw [pointText, List.cons_append, List.takeWhile_append_dropWhile]
  · exact ⟨none, rfl, rfl, IsRow.nil⟩

/-- What is read as a decimal has digits, and an exponent behind them. -/
theorem parts_of_decimalOfText? {negative : Bool} {body : List Char} {numeral : Numeral}
    (read : Numeral.decimalOfText? negative body = some numeral) :
    let behind := Numeral.splitFraction (body.dropWhile Char.isDigit)
    body.takeWhile Char.isDigit ++ behind.1 ≠ [] ∧
      ∃ exponent, Numeral.exponentOfText? behind.2 = some exponent := by
  obtain ⟨coefficient, value, read⟩ := Option.bind_eq_some_iff.mp read
  obtain ⟨exponent, behind, -⟩ := Option.bind_eq_some_iff.mp read
  exact ⟨(Command.row_of_digitsValue? value).1, exponent, behind⟩

/-- Only the body of a decimal is read as one. -/
theorem exists_decimalText {negative : Bool} {body : List Char} {numeral : Numeral}
    (read : Numeral.decimalOfText? negative body = some numeral) (sign : Sign) :
    ∃ t : DecimalText, t.sign = sign ∧ t.body = body := by
  obtain ⟨nonempty, exponent, behind⟩ := parts_of_decimalOfText? read
  obtain ⟨fraction, split, digits, row⟩ := exists_fraction (body.dropWhile Char.isDigit)
  obtain ⟨e, spelled, -⟩ := exponentOfText?_eq_some_iff.mp behind
  rw [digits] at nonempty
  refine ⟨⟨sign, _, fraction, e, isRow_takeWhile body, row, nonempty⟩, rfl, ?_⟩
  rw [DecimalText.body, spelled, ← split, List.takeWhile_append_dropWhile]

/-! ## Numbers -/

/-- The words for infinity. -/
def IsInfinity (word : List Char) : Prop :=
  IsWordIn "inf".toList word ∨ IsWordIn "infinity".toList word

/-- The word for what is no number. -/
def IsNotANumber (word : List Char) : Prop := IsWordIn "nan".toList word

/-- The texts of numbers. -/
inductive IsNumber : List Char → Prop where
  | infinite (sign : Sign) {word : List Char} (spelled : IsInfinity word) :
      IsNumber (sign.text ++ word)
  | notANumber (sign : Sign) {word : List Char} (spelled : IsNotANumber word) :
      IsNumber (sign.text ++ word)
  | decimal (t : DecimalText) : IsNumber t.text

namespace Numeral

theorem isInfinity_iff (word : List Char) :
    IsInfinity word ↔
      word.map Char.toLower = "inf".toList ∨ word.map Char.toLower = "infinity".toList := by
  rw [IsInfinity, isWordIn_iff rfl, isWordIn_iff rfl]

theorem isNotANumber_iff (word : List Char) :
    IsNotANumber word ↔ word.map Char.toLower = "nan".toList :=
  isWordIn_iff rfl

/-- A text starts with the first letter of a word, in either case. -/
theorem startsUnsigned_of_word {c : Char} {word text : List Char}
    (spelled : IsWordIn (c :: word) text) (plus : c ≠ '+' ∧ c.toUpper ≠ '+')
    (minus : c ≠ '-' ∧ c.toUpper ≠ '-') : StartsUnsigned text := by
  cases spelled with
  | cons letter rest =>
      rcases letter with rfl | rfl
      · exact ⟨plus.1, minus.1⟩
      · exact ⟨plus.2, minus.2⟩

/-- A digit or a point starts the body of a decimal. -/
theorem exists_head (t : DecimalText) :
    ∃ c rest, t.body = c :: rest ∧ (c.isDigit = true ∨ c = '.') := by
  obtain ⟨sign, whole, fraction, exponent, whole_row, fraction_row, nonempty⟩ := t
  cases whole with
  | cons c whole => exact ⟨c, _, rfl, Or.inl whole_row.head⟩
  | nil =>
      cases fraction with
      | none => exact absurd rfl nonempty
      | some fraction => exact ⟨'.', _, rfl, Or.inr rfl⟩

theorem startsUnsigned_body (t : DecimalText) : StartsUnsigned t.body := by
  obtain ⟨c, rest, body, digit | rfl⟩ := exists_head t
  · rw [body]
    constructor
    · rintro rfl
      cases digit
    · rintro rfl
      cases digit
  · rw [body]
    exact ⟨by decide, by decide⟩

/-- No word starts like a decimal. -/
theorem map_toLower_body_ne (t : DecimalText) {first : Char} {others : List Char}
    (letter : first.isDigit = false) (point : first ≠ '.') :
    t.body.map Char.toLower ≠ first :: others := by
  obtain ⟨c, rest, body, digit | rfl⟩ := exists_head t
  · rw [body]
    exact map_toLower_ne_of_isDigit digit rest letter
  · rw [body]
    intro same
    exact point (List.cons.inj same).1.symm

theorem ofText?_infinite (sign : Sign) {word : List Char} (spelled : IsInfinity word) :
    ofText? (sign.text ++ word) = some (.infinite sign.negative) := by
  have unsigned : StartsUnsigned word := by
    rcases spelled with spelled | spelled <;>
      exact startsUnsigned_of_word spelled (by decide) (by decide)
  simp only [ofText?, splitSign_text unsigned, if_pos ((isInfinity_iff word).mp spelled)]

theorem ofText?_notANumber (sign : Sign) {word : List Char} (spelled : IsNotANumber word) :
    ofText? (sign.text ++ word) = some (.notANumber sign.negative) := by
  have unsigned : StartsUnsigned word :=
    startsUnsigned_of_word spelled (by decide) (by decide)
  have lower := (isNotANumber_iff word).mp spelled
  simp only [ofText?, splitSign_text unsigned, lower]
  rfl

theorem ofText?_decimal (t : DecimalText) :
    ofText? t.text =
      some (.finite t.sign.negative (Nat.ofDigitChars 10 t.digits 0) t.scale) := by
  have inf : ¬(t.body.map Char.toLower = "inf".toList ∨
      t.body.map Char.toLower = "infinity".toList) := by
    rintro (word | word)
    · exact map_toLower_body_ne t rfl (by decide) word
    · exact map_toLower_body_ne t rfl (by decide) word
  have nan : ¬t.body.map Char.toLower = "nan".toList :=
    fun word => map_toLower_body_ne t rfl (by decide) word
  simp only [ofText?, DecimalText.text, splitSign_text (startsUnsigned_body t), if_neg inf,
    if_neg nan, t.decimalOfText?_body]

/-- Exactly the texts of numbers are read. -/
theorem ofText?_isSome_iff {text : List Char} : (ofText? text).isSome ↔ IsNumber text := by
  constructor
  · intro some
    obtain ⟨numeral, read⟩ := Option.isSome_iff_exists.mp some
    obtain ⟨sign, split, -⟩ := exists_sign text
    rw [split]
    simp only [ofText?] at read
    split at read
    · rename_i word
      exact .infinite sign ((isInfinity_iff _).mpr word)
    · split at read
      · rename_i word
        exact .notANumber sign ((isNotANumber_iff _).mpr word)
      · obtain ⟨t, rfl, body⟩ := exists_decimalText read sign
        exact body ▸ .decimal t
  · rintro (⟨sign, spelled⟩ | ⟨sign, spelled⟩ | t)
    · rw [ofText?_infinite sign spelled]
      rfl
    · rw [ofText?_notANumber sign spelled]
      rfl
    · rw [ofText?_decimal t]
      rfl

end Numeral

end CheckHarness
