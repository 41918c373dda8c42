import CheckHarness.Text.Extending
import CheckHarness.Text.Unprintable

/-!
# Quoted text

A text in quotes, such that the quoted form fits on one line, shows what is in
it, and can be read back.  Backslash escapes stand for the double quote, the
backslash, the tab, the line feed, the carriage return and the null character.
Any other character that is unprintable, or extends the one before it, is given
by its number in hexadecimal digits.  All else stands for itself.

`encode` writes what goes between the quotes and `decode` reads it.  `decode_encode`
says that reading gives back the text that was written, so no two texts are written
alike.
-/

namespace CheckHarness.Quoted

/-! ## Writing -/

/-- The letter behind the backslash that stands for a character. -/
def shortEscape? (c : Char) : Option Char :=
  if c = '\x00' then some '0'
  else if c = '\t' then some 't'
  else if c = '\r' then some 'r'
  else if c = '\n' then some 'n'
  else if c = '"' ∨ c = '\\' then some c
  else none

/-- Whether a character is written by its number. -/
def isNumbered (c : Char) : Bool := isExtending c || isUnprintable c

/-- A character as it stands between quotes. -/
def encodeChar (c : Char) : List Char :=
  match shortEscape? c with
  | some letter => ['\\', letter]
  | none =>
    if isNumbered c then ['\\', 'u', '{'] ++ Nat.toDigits 16 c.toNat ++ ['}']
    else [c]

/-- What stands between the quotes. -/
def encode (text : List Char) : List Char := text.flatMap encodeChar

/-- A text in quotes. -/
def quote (text : String) : String :=
  String.ofList ('"' :: encode text.toList ++ ['"'])

/-! ## Reading -/

/-- Where a reader stands: outside an escape, behind a backslash, before the brace
of a number, or inside a number of which some digits are read. -/
inductive Place where
  | outside
  | backslash
  | brace
  | number (value : Nat)
deriving DecidableEq, Repr

/-- The character that a letter behind a backslash stands for. -/
def shortMeaning? (letter : Char) : Option Char :=
  if letter = '0' then some '\x00'
  else if letter = 't' then some '\t'
  else if letter = 'r' then some '\r'
  else if letter = 'n' then some '\n'
  else if letter = '"' ∨ letter = '\\' then some letter
  else none

/-- The value of a hexadecimal digit. -/
def hexValue? (c : Char) : Option Nat :=
  let n := c.toNat
  if 48 ≤ n ∧ n ≤ 57 then some (n - 48)
  else if 97 ≤ n ∧ n ≤ 102 then some (n - 87)
  else none

/-- Reads on from a place. -/
def decodeFrom : Place → List Char → Option (List Char)
  | .outside, [] => some []
  | _, [] => none
  | .outside, c :: rest =>
    if c = '\\' then decodeFrom .backslash rest
    else if c = '"' then none
    else (decodeFrom .outside rest).map (c :: ·)
  | .backslash, c :: rest =>
    if c = 'u' then decodeFrom .brace rest
    else do
      let meant ← shortMeaning? c
      let behind ← decodeFrom .outside rest
      return meant :: behind
  | .brace, c :: rest => if c = '{' then decodeFrom (.number 0) rest else none
  | .number value, c :: rest =>
    if c = '}' then (decodeFrom .outside rest).map (Char.ofNat value :: ·)
    else do
      let digit ← hexValue? c
      decodeFrom (.number (16 * value + digit)) rest

/-- The text of which this is the quoted form, without the quotes. -/
def decode (written : List Char) : Option (List Char) := decodeFrom .outside written

/-! ## Reading back what is written -/

theorem hexValue?_digitChar : ∀ d < 16, hexValue? (Nat.digitChar d) = some d := by decide

theorem digitChar_ne_brace : ∀ d < 16, Nat.digitChar d ≠ '}' := by decide

/-- A reader takes one digit of a number into its value. -/
theorem decodeFrom_digitChar {d : Nat} (h : d < 16) (value : Nat) (rest : List Char) :
    decodeFrom (.number value) (Nat.digitChar d :: rest) =
      decodeFrom (.number (16 * value + d)) rest := by
  simp [decodeFrom, digitChar_ne_brace d h, hexValue?_digitChar d h]

/-- A reader takes the digits of a number. -/
theorem decodeFrom_toDigits (n : Nat) (rest : List Char) :
    decodeFrom (.number 0) (Nat.toDigits 16 n ++ rest) = decodeFrom (.number n) rest := by
  induction n using Nat.strongRecOn generalizing rest with
  | ind n ih =>
    by_cases h : n < 16
    · rw [Nat.toDigits_of_lt_base h, List.singleton_append, decodeFrom_digitChar h]
      simp
    · rw [Nat.toDigits_of_base_le (by decide) (Nat.le_of_not_lt h), List.append_assoc,
        ih (n / 16) (Nat.div_lt_self (by omega) (by decide)), List.singleton_append,
        decodeFrom_digitChar (Nat.mod_lt n (by decide)), Nat.div_add_mod]

/-- The letter of an escape means the character it is written for. -/
theorem shortMeaning?_of_shortEscape? {c letter : Char} (h : shortEscape? c = some letter) :
    shortMeaning? letter = some c ∧ letter ≠ 'u' := by
  simp only [shortEscape?] at h
  split at h
  · next hc => cases h; subst hc; decide
  · split at h
    · next hc => cases h; subst hc; decide
    · split at h
      · next hc => cases h; subst hc; decide
      · split at h
        · next hc => cases h; subst hc; decide
        · split at h
          · next hc => cases h; rcases hc with rfl | rfl <;> decide
          · cases h

/-- A reader takes one written character. -/
theorem decodeFrom_encodeChar (c : Char) (rest : List Char) :
    decodeFrom .outside (encodeChar c ++ rest) = (decodeFrom .outside rest).map (c :: ·) := by
  unfold encodeChar
  cases h : shortEscape? c with
  | some letter =>
    obtain ⟨meaning, notNumber⟩ := shortMeaning?_of_shortEscape? h
    cases hr : decodeFrom .outside rest <;> simp [decodeFrom, notNumber, meaning, hr]
  | none =>
    by_cases hn : isNumbered c
    · simp [hn, decodeFrom, decodeFrom_toDigits]
    · have hb : c ≠ '\\' := by rintro rfl; simp [shortEscape?] at h
      have hq : c ≠ '"' := by rintro rfl; simp [shortEscape?] at h
      simp [hn, decodeFrom, hb, hq]

/-- Reading gives back the text that was written. -/
theorem decode_encode (text : List Char) : decode (encode text) = some text := by
  unfold decode encode
  induction text with
  | nil => rfl
  | cons c rest ih => rw [List.flatMap_cons, decodeFrom_encodeChar, ih, Option.map_some]

end CheckHarness.Quoted
