import CheckHarness.Proofs.Binary.Spelling
import CheckHarness.Proofs.Binary.Worth
import CheckHarness.Value

/-!
# Which texts are values

Each kind of value has its texts.  `ofText?` reads them and no others, and `parse` adds to
a refusal which kind refused which text.

* `parse_number`: the floating-point kinds read the texts of numbers.  A decimal is
  rounded once, to the format of the kind.
* `parse_exact`: the integer kinds read the texts of integers within their bounds, truth
  values are two words, and every text is an object.
-/

namespace CheckHarness

namespace Value

/-! ## Reading and refusing -/

theorem parse_eq_ok_iff {kind : Kind} {text : String} {v : Value} :
    parse kind text = .ok v ↔ ofText? kind text = some v := by
  rw [parse]
  cases ofText? kind text <;> simp

/-- A refusal has the kind and the text. -/
theorem eq_of_parse_eq_error {kind : Kind} {text : String} {e : InvalidValue}
    (refused : parse kind text = .error e) : e = ⟨kind, text⟩ := by
  rw [parse] at refused
  split at refused
  · cases refused
  · exact (Except.error.inj refused).symm

/-- What is not read is refused. -/
theorem parse_eq_error {kind : Kind} {text : String} (unread : ∀ v, parse kind text ≠ .ok v) :
    parse kind text = .error ⟨kind, text⟩ := by
  cases result : parse kind text with
  | ok v => exact absurd result (unread v)
  | error e => rw [eq_of_parse_eq_error result]

/-! ## Integers -/

/-- An integer kind of some bits reads exactly the integers that its values denote. -/
structure ReadsInteger {α : Type} (kind : Kind) (bits : Nat) (denotes : α → Int)
    (wrap : α → Value) (text : String) : Prop where
  accepted : (∃ v, parse kind text = .ok v) ↔
    ∃ t : IntegerText, t.text = text.toList ∧ -2 ^ (bits - 1) ≤ t.value ∧
      t.value ≤ 2 ^ (bits - 1) - 1
  exact : ∀ v, parse kind text = .ok v →
    ∃ (t : IntegerText) (n : α), t.text = text.toList ∧ v = wrap n ∧ denotes n = t.value
  refused : (¬∃ v, parse kind text = .ok v) → parse kind text = .error ⟨kind, text⟩

theorem integerWithin?_eq_some_iff {least greatest n : Int} {text : String} :
    integerWithin? least greatest text = some n ↔
      ∃ t : IntegerText, t.text = text.toList ∧ t.value = n ∧ least ≤ n ∧ n ≤ greatest := by
  rw [integerWithin?, Option.filter_eq_some_iff, integerOfText?_eq_some_iff, decide_eq_true_iff]
  constructor
  · rintro ⟨⟨t, spelled, value⟩, bounds⟩
    exact ⟨t, spelled, value, bounds⟩
  · rintro ⟨t, spelled, value, bounds⟩
    exact ⟨⟨t, spelled, value⟩, bounds⟩

/-- A kind that reads integers within the bounds of its values. -/
theorem readsInteger_of_ofText? {α : Type} {kind : Kind} {bits : Nat} {denotes : α → Int}
    {wrap : α → Value} {text : String} (ofInt : Int → α)
    (reads : ofText? kind text =
      (integerWithin? (-2 ^ (bits - 1)) (2 ^ (bits - 1) - 1) text).map (wrap ∘ ofInt))
    (denotes_ofInt : ∀ n, -2 ^ (bits - 1) ≤ n → n ≤ 2 ^ (bits - 1) - 1 → denotes (ofInt n) = n) :
    ReadsInteger kind bits denotes wrap text := by
  have read (v : Value) : parse kind text = .ok v ↔
      ∃ t : IntegerText, (t.text = text.toList ∧ -2 ^ (bits - 1) ≤ t.value ∧
        t.value ≤ 2 ^ (bits - 1) - 1) ∧ wrap (ofInt t.value) = v := by
    rw [parse_eq_ok_iff, reads, Option.map_eq_some_iff]
    constructor
    · rintro ⟨n, within, rfl⟩
      obtain ⟨t, spelled, rfl, bounds⟩ := integerWithin?_eq_some_iff.mp within
      exact ⟨t, ⟨spelled, bounds⟩, rfl⟩
    · rintro ⟨t, ⟨spelled, bounds⟩, rfl⟩
      exact ⟨t.value, integerWithin?_eq_some_iff.mpr ⟨t, spelled, rfl, bounds⟩, rfl⟩
  constructor
  case accepted =>
    constructor
    · rintro ⟨v, ok⟩
      obtain ⟨t, within, -⟩ := (read v).mp ok
      exact ⟨t, within⟩
    · rintro ⟨t, within⟩
      exact ⟨_, (read _).mpr ⟨t, within, rfl⟩⟩
  case exact =>
    intro v ok
    obtain ⟨t, ⟨spelled, above, below⟩, rfl⟩ := (read v).mp ok
    exact ⟨t, _, spelled, rfl, denotes_ofInt _ above below⟩
  case refused =>
    intro unread
    exact parse_eq_error (not_exists.mp unread)

/-! ## Truth values and objects -/

theorem parse_bool_eq_ok_iff {text : String} {v : Value} :
    parse .bool text = .ok v ↔
      text = "true" ∧ v = .bool true ∨ text = "false" ∧ v = .bool false := by
  rw [parse_eq_ok_iff, ofText?, boolOfText?]
  split
  · rename_i yes
    simp [yes, eq_comm]
  · rename_i yes
    split
    · rename_i no
      simp [no, eq_comm]
    · rename_i no
      simp [yes, no]

theorem parse_object (text : String) :
    parse .object text = .ok (if text = "null" then absent else .object (some text)) := by
  rw [parse_eq_ok_iff, ofText?, absent, absentText]
  split <;> rfl

/-- The law of the exact kinds.  The integer kinds read every integer within their bounds,
with any number of leading zeros, and keep its value.  The kind of truth values reads two
words.  The kind of objects reads every text as it stands, but for the word for absence.
Whatever a kind refuses, it says so with its name and the text. -/
theorem parse_exact (text : String) :
    ReadsInteger .int 32 Int32.toInt .int text ∧
      ReadsInteger .long 64 Int64.toInt .long text ∧
      (∀ v, parse .bool text = .ok v ↔
        text = "true" ∧ v = .bool true ∨ text = "false" ∧ v = .bool false) ∧
      parse .object text = .ok (if text = "null" then absent else .object (some text)) ∧
      ∀ kind e, parse kind text = .error e → e = ⟨kind, text⟩ := by
  refine ⟨?int, ?long, fun v => parse_bool_eq_ok_iff, parse_object text,
    fun kind e => eq_of_parse_eq_error⟩
  case int =>
    refine readsInteger_of_ofText? Int32.ofInt rfl ?_
    intro n above below
    exact Int32.toInt_ofInt_of_le above (by omega)
  case long =>
    refine readsInteger_of_ofText? Int64.ofInt rfl ?_
    intro n above below
    exact Int64.toInt_ofInt_of_le above (by omega)

/-- The least integer has no positive counterpart. -/
example : parse .int "-02147483648" = .ok (.int Int32.minValue) ∧
    parse .int "+02147483648" = .error ⟨.int, "+02147483648"⟩ := by decide

/-! ## Numbers -/

/-- A floating-point kind reads exactly the texts of numbers. -/
structure ReadsNumber {f : Format} (kind : Kind) (wrap : Binary f → Value) (text : String) :
    Prop where
  accepted : (∃ v, parse kind text = .ok v) ↔ IsNumber text.toList
  refused : ¬IsNumber text.toList → parse kind text = .error ⟨kind, text⟩
  infinite : ∀ (sign : Sign) (word : List Char), text.toList = sign.text ++ word →
    IsInfinity word → parse kind text = .ok (wrap (.infinity f sign.negative))
  notANumber : ∀ (sign : Sign) (word : List Char), text.toList = sign.text ++ word →
    IsNotANumber word → ∃ x : Binary f, parse kind text = .ok (wrap x) ∧ x.isNaN = true
  /-- Decimals are rounded to the format of the kind at once. -/
  rounded : ∀ t : DecimalText, text.toList = t.text →
    ∃ x : Binary f, parse kind text = .ok (wrap x) ∧ x.Rounds t.sign.negative t.value

/-- What is spelled is the decimal that is read, under its sign. -/
theorem value_eq_underSign (t : DecimalText) :
    t.value = Binary.underSign t.sign.negative
      (⟨Nat.ofDigitChars 10 t.digits 0, t.scale⟩ : Decimal).value := by
  rw [DecimalText.value, Sign.apply_eq, t.magnitude_eq, Binary.underSign]

/-- A kind that reads numbers of a format. -/
theorem readsNumber_of_ofText? {f : Format} (proper : f.Proper) {kind : Kind}
    {wrap : Binary f → Value} {text : String}
    (reads : ofText? kind text = (binaryOfText? f text).map wrap) :
    ReadsNumber kind wrap text := by
  have read {numeral : Numeral} (some : Numeral.ofText? text.toList = some numeral) :
      parse kind text = .ok (wrap (.ofNumeral f numeral)) := by
    rw [parse_eq_ok_iff, reads, binaryOfText?, some]
    rfl
  have accepted : (∃ v, parse kind text = .ok v) ↔ IsNumber text.toList := by
    simp only [parse_eq_ok_iff, ← Option.isSome_iff_exists, reads, binaryOfText?,
      Option.isSome_map]
    exact Numeral.ofText?_isSome_iff
  constructor
  case accepted => exact accepted
  case refused =>
    intro unknown
    exact parse_eq_error fun v ok => unknown (accepted.mp ⟨v, ok⟩)
  case infinite =>
    intro sign word spelled infinite
    exact read (spelled ▸ Numeral.ofText?_infinite sign infinite)
  case notANumber =>
    intro sign word spelled nan
    have result := read (spelled ▸ Numeral.ofText?_notANumber sign nan)
    exact ⟨_, result, Binary.isNaN_nan proper sign.negative⟩
  case rounded =>
    intro t spelled
    refine ⟨_, read (spelled ▸ Numeral.ofText?_decimal t), ?_⟩
    rw [value_eq_underSign]
    exact Binary.rounds_ofDecimal proper _ ⟨_, _⟩

/-- The law of the floating-point kinds.  Each reads the texts of numbers and refuses
everything else.  A decimal of any length is rounded to the nearest number of the kind's
own format. -/
theorem parse_number (text : String) :
    ReadsNumber .float (f := .single) .float text ∧
      ReadsNumber .double (f := .double) .double text :=
  ⟨readsNumber_of_ofText? Format.proper_single rfl,
    readsNumber_of_ofText? Format.proper_double rfl⟩

/-- Rounded to 64 bits first, this decimal would be halfway between one and the next number
of 32 bits, and then go to one. -/
example : parse .float "1.000000059604644775390625000001" =
    .ok (.float (.ofBits .single 0x3f800001)) := by decide +kernel

end Value

end CheckHarness
