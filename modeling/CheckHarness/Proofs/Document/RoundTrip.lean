import CheckHarness.Document.Writing
import CheckHarness.Proofs.Binary.Numeral
import Mathlib.Algebra.Group.Int.Defs

/-!
# Documents read back

Whatever way a document is written, it is read as the entries it says, as long as its
integers fit into 64 bits.  There is one lemma for each part of a document, and each says
what the reader leaves of the text behind that part.

* `basic_spelledText`: a text between double quotes.
* `key?_written`, `integer?_toString` and `datum?_written`: keys, integers and values.
* `entry?_written` and `entriesWithin?_lines`: entries and the lines they stand on.
* `entries?_written`: whole documents.

Two more are about documents that nobody has written.  A document that is read at all has
an entry for every key that starts a line (`entries?_key`), and all its integers fit
(`inRange_of_entries?`).
-/

namespace CheckHarness.Document

/-- What is read behind a condition is read when it holds. -/
theorem guard_bind {α : Type} (p : Prop) [Decidable p] (next : Unit → Option α) :
    (guard p >>= next) = if p then next () else none := by
  show ((if p then pure () else failure) >>= next) = _
  by_cases holds : p
  · rw [if_pos holds, if_pos holds]
    rfl
  · rw [if_neg holds, if_neg holds]
    rfl

/-! ## Texts -/

section Texts

variable {c : Char} {text body spelling rest : List Char}

theorem basic_plain (plain : IsPlain c) (rest : List Char) :
    basic (c :: rest) = (basic rest).map (withFirst c) := by
  obtain ⟨low, delete, quote, backslash⟩ := plain
  rw [basic]
  simp [quote, backslash, isAllowed, low, delete]

theorem basic_escape (escapes : escape text = some (c, rest)) :
    basic ('\\' :: text) = (basic rest).map (withFirst c) := by
  rw [basic]
  simp only [Char.reduceEq, if_false, if_true]
  split
  · rename_i none
    rw [escapes] at none
    cases none
  · rename_i meant behind reads
    rw [escapes] at reads
    cases reads
    rfl

theorem escape_letter {letter : Char} (mem : (letter, c) ∈ letterEscapes) (rest : List Char) :
    escape (letter :: rest) = some (c, rest) := by
  simp only [letterEscapes, List.mem_cons, Prod.mk.injEq, List.not_mem_nil, or_false] at mem
  rcases mem with ⟨rfl, rfl⟩ | ⟨rfl, rfl⟩ | ⟨rfl, rfl⟩ | ⟨rfl, rfl⟩ | ⟨rfl, rfl⟩ | ⟨rfl, rfl⟩ |
    ⟨rfl, rfl⟩ <;> rfl

theorem codePoint_append {digits : List Char} (value : Radix.value? 16 digits = some c.toNat)
    (rest : List Char) : codePoint digits.length (digits ++ rest) = some (c, rest) := by
  have long : digits.length ≤ (digits ++ rest).length := by simp
  have valid : c.toNat.isValidChar := c.valid
  rw [codePoint, guard_bind, if_pos long, List.take_left, List.drop_left, value]
  show (guard c.toNat.isValidChar >>= fun _ => some (Char.ofNat c.toNat, rest)) = _
  rw [guard_bind, if_pos valid, Char.ofNat_toNat]

theorem escape_point {mark : Char} {digits : List Char}
    (mem : (mark, digits.length) ∈ pointEscapes)
    (value : Radix.value? 16 digits = some c.toNat) (rest : List Char) :
    escape (mark :: digits ++ rest) = some (c, rest) := by
  simp only [pointEscapes, List.mem_cons, Prod.mk.injEq, List.not_mem_nil, or_false] at mem
  rcases mem with ⟨rfl, length⟩ | ⟨rfl, length⟩
  · simpa [escape, length] using codePoint_append value rest
  · simpa [escape, length] using codePoint_append value rest

/-- A character is read back in whatever way it is written. -/
theorem basic_spelled (spelled : Spelled c spelling) (rest : List Char) :
    basic (spelling ++ rest) = (basic rest).map (withFirst c) := by
  cases spelled with
  | plain plain => exact basic_plain plain rest
  | letter mem => exact basic_escape (escape_letter mem rest)
  | point mem length value =>
      subst length
      exact basic_escape (escape_point mem value rest)

/-- A text between double quotes reads back. -/
theorem basic_spelledText (spelled : SpelledText text body) (rest : List Char) :
    basic (body ++ '"' :: rest) = some (text, rest) := by
  induction spelled with
  | nil => rw [List.nil_append, basic, if_pos rfl]
  | cons first _ ih =>
      rw [List.append_assoc, basic_spelled first, ih]
      rfl

theorem literal_append (plain : ∀ c ∈ text, isAllowed c = true ∧ c ≠ singleQuote)
    (rest : List Char) : literal (text ++ singleQuote :: rest) = some (text, rest) := by
  induction text with
  | nil => rw [List.nil_append, literal, if_pos rfl]
  | cons c text ih =>
      obtain ⟨allowed, other⟩ := plain c (by simp)
      rw [List.cons_append, literal, if_neg other, if_pos allowed,
        ih fun d mem => plain d (by simp [mem])]
      rfl

end Texts

/-! ## Keys -/

/-- No bare key goes on with the text. -/
def StopsKey (text : List Char) : Prop := ∀ c ∈ text.head?, isBareKeyChar c = false

section Keys

variable {key text rest : List Char}

theorem takeWhile_bare (bare : ∀ c ∈ key, isBareKeyChar c = true) (stops : StopsKey rest) :
    (key ++ rest).takeWhile isBareKeyChar = key ∧
      (key ++ rest).dropWhile isBareKeyChar = rest := by
  rw [List.takeWhile_append_of_pos bare, List.dropWhile_append_of_pos bare]
  cases rest with
  | nil => exact ⟨List.append_nil key, rfl⟩
  | cons c rest =>
      have stop : isBareKeyChar c = false := stops c rfl
      simp [stop]

/-- A key reads back in whatever way it is written. -/
theorem key?_written (written : KeyWritten key text) (stops : StopsKey rest) :
    key? (text ++ rest) = some (key, rest) := by
  cases written with
  | bare nonempty bare =>
      obtain ⟨takes, drops⟩ := takeWhile_bare bare stops
      obtain ⟨c, more, rfl⟩ := List.exists_cons_of_ne_nil nonempty
      have word : isBareKeyChar c = true := bare c (by simp)
      unfold key?
      split
      · rename_i same
        cases (List.cons.inj same).1
        cases word
      · rename_i same
        cases (List.cons.inj same).1
        cases word
      · simp only [takes, drops, nonempty, if_false]
  | basic spelled =>
      rw [List.append_assoc]
      exact basic_spelledText spelled rest
  | literal plain =>
      rw [List.append_assoc]
      exact literal_append plain rest

/-- The characters that no key starts with. -/
theorem KeyWritten.head (written : KeyWritten key text) :
    ∃ c more, text = c :: more ∧ c ∉ [' ', '\t', '#', '\n', '\r', '\ufeff'] := by
  cases written with
  | bare nonempty bare =>
      obtain ⟨c, more, rfl⟩ := List.exists_cons_of_ne_nil nonempty
      refine ⟨c, more, rfl, fun mem => ?_⟩
      have word : isBareKeyChar c = true := bare c (by simp)
      simp only [List.mem_cons, List.not_mem_nil, or_false] at mem
      rcases mem with rfl | rfl | rfl | rfl | rfl | rfl <;> cases word
  | basic spelled => exact ⟨'"', _, rfl, by decide⟩
  | literal plain => exact ⟨singleQuote, _, rfl, by decide⟩

end Keys

/-! ## Integers -/

section Integers

variable {row : List Char}

/-- The digits of a positive number do not start with a zero. -/
theorem head?_toDigits_ne {n : Nat} (pos : n ≠ 0) : (Nat.toDigits 10 n).head? ≠ some '0' := by
  induction n using Nat.strongRecOn with
  | ind n ih =>
      by_cases small : n < 10
      · rw [Nat.toDigits_of_lt_base small]
        have digit : ∀ n < 10, n ≠ 0 → [n.digitChar].head? ≠ some '0' := by decide
        exact digit n small pos
      · obtain ⟨c, more, row⟩ :=
          List.exists_cons_of_ne_nil (Nat.toDigits_ne_nil (b := 10) (n := n / 10))
        have first : (Nat.toDigits 10 (n / 10)).head? ≠ some '0' :=
          ih (n / 10) (by omega) (by omega)
        rw [Nat.toDigits_of_base_le (by decide) (Nat.le_of_not_lt small), row]
        rwa [row] at first

theorem ne_underscore_of_isDigit {c : Char} (digit : c.isDigit = true) : c ≠ '_' := by
  rintro rfl
  cases digit

/-- Digits alone need no underscores between them. -/
theorem isSpaced_of_isRow (digits : IsRow row) (nonempty : row ≠ []) : isSpaced row = true := by
  fun_induction isSpaced row with
  | case1 => exact absurd rfl nonempty
  | case2 c => simpa using ne_underscore_of_isDigit (digits c (by simp))
  | case3 c d rest _ ih =>
      have first := ne_underscore_of_isDigit (digits c (by simp))
      have second := ne_underscore_of_isDigit (digits d (by simp))
      simpa [first, second] using ih (fun e mem => digits e (by simp [mem])) (by simp)

theorem digit?_of_isDigit {c : Char} (digit : c.isDigit = true) :
    Radix.digit? c = some (c.toNat - '0'.toNat) ∧ c.toNat - '0'.toNat < 10 := by
  have range := Char.isDigit_iff_toNat.mp digit
  have nine : '9'.toNat - '0'.toNat < 10 := by decide
  exact ⟨if_pos digit, Nat.lt_of_le_of_lt (Nat.sub_le_sub_right range.2 _) nine⟩

/-- A row has the same value wherever it is read. -/
theorem value?_of_isRow (digits : IsRow row) :
    Radix.value? 10 row = some (Nat.ofDigitChars 10 row 0) := by
  suffices reads : ∀ start, row.foldlM (fun value c => do
      let digit ← Radix.digit? c
      guard (digit < 10)
      return 10 * value + digit) start = some (Nat.ofDigitChars 10 row start) from reads 0
  intro start
  induction row generalizing start with
  | nil => rfl
  | cons c row ih =>
      obtain ⟨value, small⟩ := digit?_of_isDigit digits.head
      have rest := ih (fun d mem => digits d (by simp [mem])) (10 * start + (c.toNat - '0'.toNat))
      rw [List.foldlM_cons, Nat.ofDigitChars_cons, ← rest, value]
      show ((guard (c.toNat - '0'.toNat < 10) >>= fun _ => _) >>= fun _ => _) = _
      rw [guard_bind, if_pos small]
      rfl

theorem decimalValue?_toDigits (n : Nat) : decimalValue? (Nat.toDigits 10 n) = some n := by
  have digits := IsRow.toDigits n
  have plain : ¬((Nat.toDigits 10 n).head? = some '0' ∧ Nat.toDigits 10 n ≠ ['0']) := by
    rintro ⟨zero, more⟩
    by_cases pos : n = 0
    · exact more (pos ▸ Nat.toDigits_zero 10)
    · exact head?_toDigits_ne pos zero
  have kept : (Nat.toDigits 10 n).filter (· ≠ '_') = Nat.toDigits 10 n := by
    rw [List.filter_eq_self]
    exact fun c mem => decide_eq_true (ne_underscore_of_isDigit (digits c mem))
  have spaced := isSpaced_of_isRow digits Nat.toDigits_ne_nil
  rw [decimalValue?, if_neg plain, spacedValue?, if_pos spaced, kept, value?_of_isRow digits,
    Nat.ofDigitChars_ten_toDigits]

/-- What an integer is written with. -/
def IsIntegerText (text : List Char) : Prop := ∀ c ∈ text, c.isDigit = true ∨ c = '-'

theorem isIntegerText_toString (n : Int) : IsIntegerText (toString n).toList := by
  intro c mem
  cases n with
  | ofNat n =>
      rw [toList_toString_ofNat] at mem
      exact Or.inl (IsRow.toDigits n c mem)
  | negSucc n =>
      rw [toList_toString_negSucc] at mem
      rcases List.mem_cons.mp mem with rfl | mem
      · exact Or.inr rfl
      · exact Or.inl (IsRow.toDigits (n + 1) c mem)

/-- A token without letters has no prefix that names a base. -/
theorem integerOfToken?_of_isIntegerText {token : List Char} (text : IsIntegerText token) :
    integerOfToken? token =
      (decimalValue? (splitSign token).2).map fun n =>
        if (splitSign token).1 then -(n : Int) else n := by
  unfold integerOfToken?
  split
  · exact absurd (text 'x' (by simp)) (by decide)
  · exact absurd (text 'o' (by simp)) (by decide)
  · exact absurd (text 'b' (by simp)) (by decide)
  · rfl

/-- A written integer is what its token spells. -/
theorem integerOfToken?_toString (n : Int) : integerOfToken? (toString n).toList = some n := by
  rw [integerOfToken?_of_isIntegerText (isIntegerText_toString n)]
  cases n with
  | ofNat n =>
      obtain ⟨c, more, row⟩ := List.exists_cons_of_ne_nil (Nat.toDigits_ne_nil (b := 10) (n := n))
      have digit : c.isDigit = true := IsRow.toDigits n c (row ▸ List.mem_cons_self)
      have unsigned : splitSign (Nat.toDigits 10 n) = (false, Nat.toDigits 10 n) := by
        rw [row, splitSign_of_isDigit digit]
      rw [toList_toString_ofNat, unsigned, decimalValue?_toDigits]
      rfl
  | negSucc n =>
      rw [toList_toString_negSucc, splitSign, decimalValue?_toDigits]
      rfl

/-- The integer fits into 64 bits. -/
def InRange (n : Int) : Prop := Int64.minValue.toInt ≤ n ∧ n ≤ Int64.maxValue.toInt

instance (n : Int) : Decidable (InRange n) := inferInstanceAs (Decidable (_ ∧ _))

theorem inRange_iff (n : Int) : InRange n ↔ -2 ^ 63 ≤ n ∧ n ≤ 2 ^ 63 - 1 := by
  have low : Int64.minValue.toInt = -2 ^ 63 := rfl
  have high : Int64.maxValue.toInt = 2 ^ 63 - 1 := rfl
  rw [InRange, low, high]

theorem integer?_eq (text : List Char) :
    integer? text = (integerOfToken? (text.takeWhile isTokenChar)).bind fun n =>
      if InRange n then some (n, text.dropWhile isTokenChar) else none := by
  unfold integer?
  cases integerOfToken? (text.takeWhile isTokenChar) with
  | none => rfl
  | some n =>
      show (guard (InRange n) >>= fun _ => some (n, text.dropWhile isTokenChar)) = _
      rw [guard_bind]
      rfl

/-- No integer goes on with the text. -/
def StopsInteger (text : List Char) : Prop := ∀ c ∈ text.head?, isTokenChar c = false

/-- An integer that fits reads back, and no other does. -/
theorem integer?_toString (n : Int) {rest : List Char} (stops : StopsInteger rest) :
    integer? ((toString n).toList ++ rest) = if InRange n then some (n, rest) else none := by
  have token : ∀ c ∈ (toString n).toList, isTokenChar c = true := by
    intro c mem
    rcases isIntegerText_toString n c mem with digit | rfl
    · simp [isTokenChar, Char.isAlphanum, digit]
    · rfl
  have ends : rest.takeWhile isTokenChar = [] ∧ rest.dropWhile isTokenChar = rest := by
    cases rest with
    | nil => exact ⟨rfl, rfl⟩
    | cons c rest =>
        have stop : isTokenChar c = false := stops c rfl
        simp [stop]
  rw [integer?_eq, List.takeWhile_append_of_pos token, List.dropWhile_append_of_pos token,
    ends.1, ends.2, List.append_nil, integerOfToken?_toString]
  rfl

end Integers

/-! ## Values -/

/-- A text is in range, and an integer when it fits into 64 bits. -/
def Datum.InRange : Datum → Prop
  | .integer n => Document.InRange n
  | .text _ => True

instance (datum : Datum) : Decidable datum.InRange :=
  match datum with
  | .integer n => inferInstanceAs (Decidable (Document.InRange n))
  | .text _ => inferInstanceAs (Decidable True)

/-- The line ends here, if there is more. -/
def StopsLine (text : List Char) : Prop := ∀ c ∈ text.head?, c = '\n' ∨ c = '\r'

section Values

variable {text body rest : List Char}

theorem StopsLine.stopsInteger (stops : StopsLine rest) : StopsInteger rest := by
  intro c mem
  rcases stops c mem with rfl | rfl <;> rfl

theorem SpelledText.head?_ne (spelled : SpelledText text body) : body.head? ≠ some '"' := by
  cases spelled with
  | nil => simp
  | cons first rest =>
      cases first with
      | plain plain => simpa using plain.2.2.1
      | letter mem => simp
      | point mem length value => simp

/-- A quote that is not the first of three opens a text of one line. -/
theorem quoted?_basic {text : List Char} (single : ∀ rest, text ≠ '"' :: '"' :: rest) :
    quoted? ('"' :: text) = basic text := by
  unfold quoted?
  split
  · rename_i rest same
    exact absurd (List.cons.inj same).2 (single rest)
  · rename_i same
    rw [(List.cons.inj same).2]
  · rename_i same
    cases same
  · rename_i same
    cases same
  · rename_i _ other _ _
    exact (other text rfl).elim

/-- A text between double quotes is not taken for the start of a text of several lines. -/
theorem ne_quotes (spelled : SpelledText text body) (stops : StopsLine rest) (more : List Char) :
    body ++ '"' :: rest ≠ '"' :: '"' :: more := by
  intro same
  cases body with
  | nil =>
      obtain rfl := (List.cons.inj same).2
      rcases stops '"' rfl with h | h <;> cases h
  | cons c body =>
      obtain rfl := (List.cons.inj same).1
      exact spelled.head?_ne rfl

theorem toList_toString_ne_nil (n : Int) : (toString n).toList ≠ [] := by
  cases n with
  | ofNat n =>
      rw [toList_toString_ofNat]
      exact Nat.toDigits_ne_nil
  | negSucc n =>
      rw [toList_toString_negSucc]
      exact List.cons_ne_nil _ _

theorem isBlank_iff {c : Char} : isBlank c = true ↔ c = ' ' ∨ c = '\t' := by
  simp [isBlank]

/-- What a value starts with is not blank. -/
theorem DatumWritten.head {datum : Datum} (written : DatumWritten datum text) :
    ∃ c more, text = c :: more ∧ isBlank c = false := by
  cases written with
  | integer n =>
      obtain ⟨c, more, row⟩ := List.exists_cons_of_ne_nil (toList_toString_ne_nil n)
      refine ⟨c, more, row, ?_⟩
      have sign := isIntegerText_toString n c (row ▸ List.mem_cons_self)
      cases blank : isBlank c with
      | false => rfl
      | true =>
          rcases isBlank_iff.mp blank with rfl | rfl <;> rcases sign with h | h <;> cases h
  | text spelled => exact ⟨'"', _, rfl, rfl⟩

/-- A value reads back when it is in range. -/
theorem datum?_written {datum : Datum} (written : DatumWritten datum text)
    (stops : StopsLine rest) :
    datum? (text ++ rest) = if datum.InRange then some (datum, rest) else none := by
  cases written with
  | integer n =>
      have unquoted : ¬(((toString n).toList ++ rest).head? = some '"' ∨
          ((toString n).toList ++ rest).head? = some singleQuote) := by
        obtain ⟨c, more, row⟩ := List.exists_cons_of_ne_nil (toList_toString_ne_nil n)
        have sign := isIntegerText_toString n c (row ▸ List.mem_cons_self)
        rw [row]
        rintro (same | same) <;> cases same <;> rcases sign with h | h <;> cases h
      rw [datum?, if_neg unquoted, integer?_toString n stops.stopsInteger]
      by_cases fits : InRange n
      · have fits' : (Datum.integer n).InRange := fits
        rw [if_pos fits, if_pos fits']
        rfl
      · have fits' : ¬(Datum.integer n).InRange := fits
        rw [if_neg fits, if_neg fits']
        rfl
  | @text s body spelled =>
      have opens : '"' :: body ++ ['"'] ++ rest = '"' :: (body ++ '"' :: rest) := by simp
      have quote : ('"' :: (body ++ '"' :: rest)).head? = some '"' := rfl
      rw [opens, datum?, if_pos (Or.inl quote), quoted?_basic (ne_quotes spelled stops),
        basic_spelledText spelled]
      simp [Datum.InRange]

end Values

/-! ## Entries -/

section Entries

variable {entry : Entry} {key equals text rest : List Char}

theorem dropBlanks_append {blanks : List Char} (blank : ∀ c ∈ blanks, isBlank c = true)
    (text : List Char) : dropBlanks (blanks ++ text) = dropBlanks text :=
  List.dropWhile_append_of_pos blank

theorem dropBlanks_cons {c : Char} (other : isBlank c = false) (text : List Char) :
    dropBlanks (c :: text) = c :: text := by
  simp [dropBlanks, other]

/-- Blanks and equals signs are no part of a bare key. -/
theorem EqualsWritten.stopsKey (written : EqualsWritten equals) (rest : List Char) :
    StopsKey (equals ++ rest) := by
  obtain ⟨blank⟩ := written
  rename_i before after
  intro c mem
  cases before with
  | nil =>
      cases mem
      rfl
  | cons d before =>
      obtain rfl : d = c := Option.some.inj mem
      rcases isBlank_iff.mp (blank d (by simp)) with rfl | rfl <;> rfl

/-- An entry whose key and equals sign can be read. -/
theorem entry?_key {name : String} (writesKey : KeyWritten name.toList key)
    {behind tail : List Char} (stops : StopsKey behind)
    (sign : dropBlanks behind = '=' :: tail) :
    entry? (key ++ behind) = (datum? (dropBlanks tail)).bind fun read =>
      (finishLine read.2).map fun next => (⟨name, read.1⟩, next) := by
  rw [ entry?, key?_written writesKey stops]
  simp only [Option.bind_eq_bind, Option.bind_some, sign, String.ofList_toList]
  cases datum? (dropBlanks tail) with
  | none => rfl
  | some read =>
      obtain ⟨datum, rest⟩ := read
      show ((finishLine rest).bind fun next => some (Entry.mk name datum, next)) =
        (finishLine rest).map fun next => (Entry.mk name datum, next)
      cases finishLine rest with
      | none => rfl
      | some next => rfl

/-- An entry that can be read has the key it starts with, and an equals sign. -/
theorem key_of_line {name : String} (writesKey : KeyWritten name.toList key)
    {behind next : List Char} (stops : StopsKey behind)
    (reads : entry? (key ++ behind) = some (entry, next)) :
    entry.key = name ∧ (dropBlanks behind).head? = some '=' := by
  cases sign : dropBlanks behind with
  | nil =>
      rw [ entry?, key?_written writesKey stops] at reads
      simp [sign] at reads
  | cons c tail =>
      by_cases equal : c = '='
      · subst equal
        rw [entry?_key writesKey stops sign] at reads
        obtain ⟨_, -, line⟩ := Option.bind_eq_some_iff.mp reads
        obtain ⟨_, -, line⟩ := Option.map_eq_some_iff.mp line
        cases line
        exact ⟨rfl, rfl⟩
      · rw [ entry?, key?_written writesKey stops] at reads
        simp [sign, equal] at reads

/-- Behind an equals sign the value starts at once. -/
theorem dropBlanks_equals (written : EqualsWritten equals) (tail : List Char) :
    ∃ tail', dropBlanks (equals ++ tail) = '=' :: tail' ∧ dropBlanks tail' = dropBlanks tail := by
  obtain ⟨blank⟩ := written
  rename_i before after
  refine ⟨after ++ tail, ?_, dropBlanks_append (fun c mem => blank c (by simp [mem])) tail⟩
  rw [List.append_assoc, dropBlanks_append fun c mem => blank c (by simp [mem])]
  exact dropBlanks_cons rfl _

/-- An entry reads back when it is in range, with the lines that follow. -/
theorem entry?_written (written : EntryWritten entry text) (stops : StopsLine rest)
    {next : List Char} (finishes : finishLine rest = some next) :
    entry? (text ++ rest) = if entry.datum.InRange then some (entry, next) else none := by
  obtain ⟨writesKey, writesEquals, writesDatum⟩ := written
  rename_i key equals datum
  obtain ⟨c, more, first, other⟩ := writesDatum.head
  have unblank : dropBlanks (datum ++ rest) = datum ++ rest := by
    rw [first]
    exact dropBlanks_cons other _
  obtain ⟨tail, sign, drops⟩ := dropBlanks_equals writesEquals (datum ++ rest)
  rw [List.append_assoc, List.append_assoc, entry?_key writesKey (writesEquals.stopsKey _) sign,
    drops, unblank, datum?_written writesDatum stops]
  by_cases fits : entry.datum.InRange
  · simp [fits, finishes]
  · simp [fits]

/-- No line ends where a key starts. -/
theorem KeyWritten.finishLine_eq_none {key text : List Char} (written : KeyWritten key text)
    (rest : List Char) :
    finishLine (text ++ rest) = none ∧ dropBlanks (text ++ rest) = text ++ rest ∧
      text ++ rest ≠ [] := by
  obtain ⟨c, more, rfl, other⟩ := written.head
  simp only [List.mem_cons, List.not_mem_nil, or_false, not_or] at other
  obtain ⟨space, tab, hash, newline, carriage, -⟩ := other
  have unblank : dropBlanks (c :: (more ++ rest)) = c :: (more ++ rest) :=
    dropBlanks_cons (by simp [isBlank, space, tab]) _
  refine ⟨?_, unblank, List.cons_ne_nil _ _⟩
  rw [List.cons_append, finishLine, unblank]
  have uncommented : dropComment (c :: (more ++ rest)) = c :: (more ++ rest) := by
    unfold dropComment
    split
    · rename_i same
      exact absurd (List.cons.inj same).1 hash
    · rfl
  rw [uncommented]
  show lineEnd? (c :: (more ++ rest)) = none
  unfold lineEnd?
  split
  · rename_i same
    exact absurd (List.cons.inj same).1 newline
  · rename_i same
    exact absurd (List.cons.inj same).1 carriage
  · rfl

end Entries

/-! ## Lines -/

section Lines

variable {entries : List Entry} {lines rest : List Char}

/-- A line that starts with a key is read as an entry. -/
theorem entriesWithin?_key {key text : List Char} (written : KeyWritten key text)
    (fuel : Nat) (rest : List Char) :
    entriesWithin? (fuel + 1) (text ++ rest) = ( entry? (text ++ rest)).bind fun read =>
      (entriesWithin? fuel read.2).map (read.1 :: ·) := by
  obtain ⟨unfinished, unblank, nonempty⟩ := written.finishLine_eq_none rest
  rw [entriesWithin?, if_neg nonempty, unfinished, unblank]
  cases entry? (text ++ rest) with
  | none => rfl
  | some read =>
      obtain ⟨entry, next⟩ := read
      show ((entriesWithin? fuel next).bind fun entries => some (entry :: entries)) =
        (entriesWithin? fuel next).map (entry :: ·)
      cases entriesWithin? fuel next with
      | none => rfl
      | some entries => rfl

theorem lineEnd_stops {ending : List Char} (ends : ending ∈ lineEnds) (rest : List Char) :
    StopsLine (ending ++ rest) ∧ finishLine (ending ++ rest) = some rest := by
  simp only [lineEnds, List.mem_cons, List.not_mem_nil, or_false] at ends
  rcases ends with rfl | rfl
  · exact ⟨fun c mem => Or.inl (Option.some.inj mem).symm, rfl⟩
  · exact ⟨fun c mem => Or.inr (Option.some.inj mem).symm, rfl⟩

/-- A written line is read as its entry. -/
theorem entriesWithin?_entry {entry : Entry} {text next : List Char}
    (written : EntryWritten entry text) (stops : StopsLine rest)
    (finishes : finishLine rest = some next) (fuel : Nat) :
    entriesWithin? (fuel + 1) (text ++ rest) =
      if entry.datum.InRange then (entriesWithin? fuel next).map (entry :: ·) else none := by
  have reads := entry?_written written stops finishes
  obtain ⟨writesKey, writesEquals, writesDatum⟩ := written
  simp only [List.append_assoc] at reads ⊢
  rw [entriesWithin?_key writesKey, reads]
  by_cases fits : entry.datum.InRange
  · simp [fits]
  · simp [fits]

/-- Written lines are read as their entries when all of them are in range. -/
theorem entriesWithin?_lines (written : LinesWritten entries lines) (fuel : Nat)
    (rest : List Char) :
    entriesWithin? (fuel + entries.length) (lines ++ rest) =
      if ∀ entry ∈ entries, entry.datum.InRange then
        (entriesWithin? fuel rest).map (entries ++ ·)
      else none := by
  induction written with
  | nil => simp
  | @cons entry entries line ending lines first ends _ ih =>
      obtain ⟨stops, finishes⟩ := lineEnd_stops ends (lines ++ rest)
      have here := entriesWithin?_entry first stops finishes (fuel + entries.length)
      rw [List.append_assoc, List.append_assoc, List.length_cons, ← Nat.add_assoc, here, ih]
      have all_iff : (∀ other ∈ entry :: entries, other.datum.InRange) ↔
          entry.datum.InRange ∧ ∀ other ∈ entries, other.datum.InRange := List.forall_mem_cons
      by_cases fits : entry.datum.InRange
      · by_cases others : ∀ other ∈ entries, other.datum.InRange
        · rw [if_pos fits, if_pos others, if_pos (all_iff.mpr ⟨fits, others⟩), Option.map_map]
          rfl
        · rw [if_pos fits, if_neg others, if_neg fun all => others (all_iff.mp all).2]
          rfl
      · rw [if_neg fits, if_neg fun all => fits (all_iff.mp all).1]

/-- Every line of a document holds at least its end. -/
theorem LinesWritten.length_le (written : LinesWritten entries lines) :
    entries.length ≤ lines.length := by
  induction written with
  | nil => exact Nat.le_refl 0
  | cons _ ends _ ih =>
      simp only [lineEnds, List.mem_cons, List.not_mem_nil, or_false] at ends
      rcases ends with rfl | rfl <;> simp <;> omega

/-- A key is no mark of an encoding. -/
theorem dropMark_key {key text : List Char} (written : KeyWritten key text) (rest : List Char) :
    dropMark (text ++ rest) = text ++ rest := by
  obtain ⟨c, more, rfl, other⟩ := written.head
  unfold dropMark
  split
  · rename_i same
    exact absurd (List.cons.inj same).1 (by simp_all)
  · rfl

theorem dropMark_lines (written : LinesWritten entries lines) (unmarked : dropMark rest = rest) :
    dropMark (lines ++ rest) = lines ++ rest := by
  cases written with
  | nil => exact unmarked
  | cons first ends others =>
      obtain ⟨writesKey, writesEquals, writesDatum⟩ := first
      simpa using dropMark_key writesKey _

/-- Written lines are read as their entries, and then what follows. -/
theorem entries?_lines (written : LinesWritten entries lines) (unmarked : dropMark rest = rest) :
    ∃ fuel, entries? (String.ofList (lines ++ rest)) =
      if ∀ entry ∈ entries, entry.datum.InRange then
        (entriesWithin? (fuel + 1) rest).map (entries ++ ·)
      else none := by
  have enough := written.length_le
  refine ⟨(lines ++ rest).length - entries.length, ?_⟩
  have fuel : (lines ++ rest).length + 1 =
      (lines ++ rest).length - entries.length + 1 + entries.length := by
    rw [List.length_append]
    omega
  rw [entries?, String.toList_ofList, dropMark_lines written unmarked]
  conv => lhs; rw [fuel]
  exact entriesWithin?_lines written _ rest

end Lines

/-! ## Documents -/

section Documents

variable {entries : List Entry} {text lines : List Char}

theorem entriesWithin?_nil (fuel : Nat) : entriesWithin? fuel [] = some [] := by
  cases fuel with
  | zero => rfl
  | succ fuel => rfl

/-- A document is read as what it says when all of it is in range. -/
theorem entries?_written (written : Written entries text) :
    entries? (String.ofList text) =
      if ∀ entry ∈ entries, entry.datum.InRange then some entries else none := by
  cases written with
  | ended writes =>
      have unmarked : dropMark [] = [] := rfl
      obtain ⟨fuel, reads⟩ := entries?_lines writes unmarked
      rw [List.append_nil] at reads
      simp [reads, entriesWithin?_nil]
  | @unended entries last lines line writes writesLast =>
      have unmarked : dropMark line = line := by
        obtain ⟨writesKey, writesEquals, writesDatum⟩ := writesLast
        simpa using dropMark_key writesKey _
      obtain ⟨fuel, reads⟩ := entries?_lines writes unmarked
      have ends : StopsLine [] := by simp [StopsLine]
      have here := entriesWithin?_entry writesLast ends rfl fuel
      rw [List.append_nil, entriesWithin?_nil] at here
      rw [reads, here]
      have all_iff : (∀ entry ∈ entries ++ [last], entry.datum.InRange) ↔
          (∀ entry ∈ entries, entry.datum.InRange) ∧ last.datum.InRange := by
        simp [or_imp, forall_and]
      by_cases fits : ∀ entry ∈ entries, entry.datum.InRange
      · by_cases fits' : last.datum.InRange
        · rw [if_pos fits, if_pos fits', if_pos (all_iff.mpr ⟨fits, fits'⟩)]
          rfl
        · rw [if_pos fits, if_neg fits', if_neg fun all => fits' (all_iff.mp all).2]
          rfl
      · rw [if_neg fits, if_neg fun all => fits (all_iff.mp all).1]

/-- A document that is read at all has an entry for a key that starts a line, and an
equals sign behind the key. -/
theorem entries?_key (written : LinesWritten entries lines) {name : String}
    {key behind : List Char} (writesKey : KeyWritten name.toList key) (stops : StopsKey behind)
    {all : List Entry} (reads : entries? (String.ofList (lines ++ (key ++ behind))) = some all) :
    (∃ datum more, all = entries ++ ⟨name, datum⟩ :: more) ∧
      (dropBlanks behind).head? = some '=' := by
  obtain ⟨fuel, before⟩ := entries?_lines written (dropMark_key writesKey behind)
  rw [before, entriesWithin?_key writesKey] at reads
  split at reads
  · obtain ⟨_, others, rfl⟩ := Option.map_eq_some_iff.mp reads
    obtain ⟨⟨entry, next⟩, line, rest⟩ := Option.bind_eq_some_iff.mp others
    obtain ⟨more, -, rfl⟩ := Option.map_eq_some_iff.mp rest
    obtain ⟨rfl, sign⟩ := key_of_line writesKey stops line
    exact ⟨⟨entry.datum, more, rfl⟩, sign⟩
  · cases reads

/-! ### Every document -/

theorem inRange_of_datum? {datum : Datum} {rest : List Char}
    (reads : datum? text = some (datum, rest)) : datum.InRange := by
  unfold datum? at reads
  split at reads
  · obtain ⟨read, -, same⟩ := Option.map_eq_some_iff.mp reads
    cases same
    trivial
  · rw [integer?_eq] at reads
    obtain ⟨read, reads, same⟩ := Option.map_eq_some_iff.mp reads
    obtain ⟨n, -, reads⟩ := Option.bind_eq_some_iff.mp reads
    split at reads
    · rename_i fits
      cases reads
      cases same
      exact fits
    · cases reads

theorem inRange_of_line {entry : Entry} {next : List Char}
    (reads : entry? text = some (entry, next)) : entry.datum.InRange := by
  obtain ⟨⟨key, behind⟩, -, reads⟩ := Option.bind_eq_some_iff.mp reads
  dsimp only at reads
  split at reads
  · obtain ⟨⟨datum, behind⟩, value, reads⟩ := Option.bind_eq_some_iff.mp reads
    obtain ⟨next, -, reads⟩ := Option.bind_eq_some_iff.mp reads
    cases reads
    exact inRange_of_datum? value
  · cases reads

/-- Whatever a document says is in range. -/
theorem inRange_of_entries? {document : String} (reads : entries? document = some entries) :
    ∀ entry ∈ entries, entry.datum.InRange := by
  suffices lines : ∀ fuel text entries, entriesWithin? fuel text = some entries →
      ∀ entry ∈ entries, entry.datum.InRange from lines _ _ entries reads
  intro fuel text
  induction fuel generalizing text with
  | zero =>
      intro entries reads
      simp only [entriesWithin?] at reads
      split at reads
      · cases reads
        simp
      · cases reads
  | succ fuel ih =>
      intro entries reads
      rw [entriesWithin?] at reads
      split at reads
      · cases reads
        simp
      · split at reads
        · exact ih _ entries reads
        · obtain ⟨⟨entry, next⟩, line, reads⟩ := Option.bind_eq_some_iff.mp reads
          obtain ⟨others, rest, reads⟩ := Option.bind_eq_some_iff.mp reads
          cases reads
          exact List.forall_mem_cons.mpr ⟨inRange_of_line line, ih next others rest⟩

end Documents

end CheckHarness.Document
