import CheckHarness.Document.Entry

/-!
# Writing a document

The documents that say what a list of entries says, one entry a line.

A key is written as a bare word or between quotes, and then an equals sign and the value,
with blanks around the sign or none.  An integer is written in decimal.  A text is
written between double quotes.  Its quotes, backslashes and control characters are
escaped, and any other character may be.  A line ends with a line feed, which a carriage
return may precede, and the last line may go without.

Most entries can be written in many ways, and all in one at least (`exists_written`).
-/

namespace CheckHarness.Document

/-! ## Texts -/

/-- The escapes of one letter, each with the character it stands for. -/
def letterEscapes : List (Char × Char) :=
  [('b', '\x08'), ('t', '\t'), ('n', '\n'), ('f', '\x0c'), ('r', '\r'), ('"', '"'), ('\\', '\\')]

/-- The marks of escapes by code point, each with the number of its digits. -/
def pointEscapes : List (Char × Nat) := [('u', 4), ('U', 8)]

/-- The characters that stand for themselves between double quotes. -/
def IsPlain (c : Char) : Prop := 32 ≤ c.toNat ∧ c.toNat ≠ 127 ∧ c ≠ '"' ∧ c ≠ '\\'

instance (c : Char) : Decidable (IsPlain c) := inferInstanceAs (Decidable (_ ∧ _ ∧ _ ∧ _))

/-- The ways to write a character between double quotes. -/
inductive Spelled (c : Char) : List Char → Prop where
  | plain (plain : IsPlain c) : Spelled c [c]
  | letter {letter : Char} (escapes : (letter, c) ∈ letterEscapes) : Spelled c ['\\', letter]
  | point {mark : Char} {count : Nat} {digits : List Char} (escapes : (mark, count) ∈ pointEscapes)
      (length : digits.length = count) (value : Radix.value? 16 digits = some c.toNat) :
      Spelled c ('\\' :: mark :: digits)

/-- The ways to write a text between double quotes, the quotes left out. -/
inductive SpelledText : List Char → List Char → Prop where
  | nil : SpelledText [] []
  | cons {c : Char} {text spelling body : List Char} (first : Spelled c spelling)
      (rest : SpelledText text body) : SpelledText (c :: text) (spelling ++ body)

/-! ## Entries -/

/-- The ways to write a key. -/
inductive KeyWritten (key : List Char) : List Char → Prop where
  | bare (nonempty : key ≠ []) (bare : ∀ c ∈ key, isBareKeyChar c = true) : KeyWritten key key
  | basic {body : List Char} (spelled : SpelledText key body) :
      KeyWritten key ('"' :: body ++ ['"'])
  | literal (plain : ∀ c ∈ key, isAllowed c = true ∧ c ≠ singleQuote) :
      KeyWritten key (singleQuote :: key ++ [singleQuote])

/-- The ways to write a value. -/
inductive DatumWritten : Datum → List Char → Prop where
  | integer (n : Int) : DatumWritten (.integer n) (toString n).toList
  | text {s : String} {body : List Char} (spelled : SpelledText s.toList body) :
      DatumWritten (.text s) ('"' :: body ++ ['"'])

/-- The ways to write what stands between a key and its value. -/
inductive EqualsWritten : List Char → Prop where
  | intro {before after : List Char} (blank : ∀ c ∈ before ++ after, isBlank c = true) :
      EqualsWritten (before ++ '=' :: after)

/-- The ways to write an entry, without the end of its line. -/
inductive EntryWritten (entry : Entry) : List Char → Prop where
  | intro {key equals datum : List Char} (writesKey : KeyWritten entry.key.toList key)
      (writesEquals : EqualsWritten equals) (writesDatum : DatumWritten entry.datum datum) :
      EntryWritten entry (key ++ equals ++ datum)

/-! ## Documents -/

/-- The ends of a line. -/
def lineEnds : List (List Char) := [['\n'], ['\r', '\n']]

/-- The ways to write entries in lines that are all ended. -/
inductive LinesWritten : List Entry → List Char → Prop where
  | nil : LinesWritten [] []
  | cons {entry : Entry} {entries : List Entry} {line ending lines : List Char}
      (first : EntryWritten entry line) (ends : ending ∈ lineEnds)
      (rest : LinesWritten entries lines) :
      LinesWritten (entry :: entries) (line ++ ending ++ lines)

/-- The ways to write a document. -/
inductive Written : List Entry → List Char → Prop where
  | ended {entries : List Entry} {lines : List Char} (writes : LinesWritten entries lines) :
      Written entries lines
  /-- The last line is not ended. -/
  | unended {entries : List Entry} {last : Entry} {lines line : List Char}
      (writes : LinesWritten entries lines) (writesLast : EntryWritten last line) :
      Written (entries ++ [last]) (lines ++ line)

/-! ## Every entry can be written -/

theorem exists_spelled (c : Char) : ∃ spelling, Spelled c spelling := by
  by_cases plain : IsPlain c
  · exact ⟨[c], .plain plain⟩
  by_cases quote : c = '"'
  · exact ⟨['\\', '"'], .letter (by rw [quote]; decide)⟩
  by_cases backslash : c = '\\'
  · exact ⟨['\\', '\\'], .letter (by rw [backslash]; decide)⟩
  have low : c.toNat < 128 := by
    have control : ¬(32 ≤ c.toNat ∧ c.toNat ≠ 127) := fun ⟨low, delete⟩ =>
      plain ⟨low, delete, quote, backslash⟩
    omega
  have value : ∀ n < 128,
      Radix.value? 16 ['0', '0', (n / 16).digitChar, (n % 16).digitChar] = some n := by decide
  have four : ('u', 4) ∈ pointEscapes := by decide
  exact ⟨_, .point four rfl (value c.toNat low)⟩

theorem exists_spelledText (text : List Char) : ∃ body, SpelledText text body := by
  induction text with
  | nil => exact ⟨[], .nil⟩
  | cons c text ih =>
      obtain ⟨spelling, first⟩ := exists_spelled c
      obtain ⟨body, rest⟩ := ih
      exact ⟨spelling ++ body, .cons first rest⟩

theorem exists_entryWritten (entry : Entry) : ∃ line, EntryWritten entry line := by
  obtain ⟨key, datum⟩ := entry
  obtain ⟨body, spelled⟩ := exists_spelledText key.toList
  have equals : EqualsWritten ([] ++ ['=']) := .intro (by simp)
  cases datum with
  | integer n => exact ⟨_, .intro (.basic spelled) equals (.integer n)⟩
  | text s =>
      obtain ⟨body', spelled'⟩ := exists_spelledText s.toList
      exact ⟨_, .intro (.basic spelled) equals (.text spelled')⟩

/-- Every list of entries can be written. -/
theorem exists_written (entries : List Entry) : ∃ text, Written entries text := by
  suffices lines : ∃ lines, LinesWritten entries lines from lines.imp fun _ writes => .ended writes
  induction entries with
  | nil => exact ⟨[], .nil⟩
  | cons entry entries ih =>
      obtain ⟨line, first⟩ := exists_entryWritten entry
      obtain ⟨lines, rest⟩ := ih
      have feed : ['\n'] ∈ lineEnds := by decide
      exact ⟨_, .cons first feed rest⟩

end CheckHarness.Document
