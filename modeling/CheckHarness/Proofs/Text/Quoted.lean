import Mathlib.Data.List.Forall2
import CheckHarness.Text.Quoted

/-!
# Quoted texts fit on one line

Between the quotes each character stands in one of three ways (`Stands`): as a letter behind
a backslash, as its number in hexadecimal digits, or as itself.  Only characters that are
printable and stand on their own are left as themselves, and all else is written in the
printable characters of ASCII.  So a quoted text holds no character that is unprintable or
extends another (`not_isNumbered_of_mem_quote`).  No control character is left, and none that
ends a line, since these are all unprintable.

`quote_injective` says that no two texts are quoted alike.
-/

namespace CheckHarness

/-! ## Characters that break a line up -/

/-- Whether a character is a control. -/
def isControl (c : Char) : Bool := c.toNat < 0x20 || 0x7f ≤ c.toNat && c.toNat ≤ 0x9f

/-- Whether a character ends a line: the line feed and the two behind it, the carriage
return, the next-line control, and the separators of lines and paragraphs. -/
def endsLine (c : Char) : Bool := c.toNat ∈ [0xa, 0xb, 0xc, 0xd, 0x85, 0x2028, 0x2029]

theorem isUnprintable_of_isControl {c : Char} (control : isControl c = true) :
    isUnprintable c = true := by
  simp only [isControl, Bool.or_eq_true, Bool.and_eq_true, decide_eq_true_eq] at control
  rcases control with low | ⟨high, low⟩
  · exact isUnprintable_of_lt low
  · have delete : (0x7f, 0xa0) ∈ unprintable := by decide +kernel
    exact Ranges.covers_of_mem delete high (by omega)

theorem isUnprintable_of_endsLine {c : Char} (ends : endsLine c = true) :
    isUnprintable c = true := by
  simp only [endsLine, List.mem_cons, List.not_mem_nil, or_false, decide_eq_true_eq] at ends
  by_cases control : isControl c = true
  · exact isUnprintable_of_isControl control
  · simp only [isControl, Bool.or_eq_true, Bool.and_eq_true, decide_eq_true_eq] at control
    have separators : (0x2028, 0x202f) ∈ unprintable := by decide +kernel
    exact Ranges.covers_of_mem separators (by omega) (by omega)

/-- The printable characters of ASCII. -/
def ascii : Ranges := [(0x20, 0x7e)]

namespace Quoted

theorem not_isNumbered_of_ascii {c : Char} (plain : ascii.covers c = true) :
    isNumbered c = false := by
  have stands : isExtending c = false := Ranges.not_covers_of_apart (by decide +kernel) plain
  have printable : isUnprintable c = false := Ranges.not_covers_of_apart (by decide +kernel) plain
  rw [isNumbered, stands, printable]
  rfl

/-! ## How characters stand between quotes -/

/-- The characters that stand as a letter behind a backslash. -/
def lettered : List Char := ['\x00', '\t', '\r', '\n', '"', '\\']

/-- A character stands between quotes as a text. -/
inductive Stands : Char → List Char → Prop where
  | null : Stands '\x00' ['\\', '0']
  | tab : Stands '\t' ['\\', 't']
  | carriageReturn : Stands '\r' ['\\', 'r']
  | lineFeed : Stands '\n' ['\\', 'n']
  | doubleQuote : Stands '"' ['\\', '"']
  | backslash : Stands '\\' ['\\', '\\']
  /-- The number of an unprintable or extending character. -/
  | number {c : Char} (other : c ∉ lettered)
      (marked : isUnprintable c = true ∨ isExtending c = true) :
      Stands c (['\\', 'u', '{'] ++ Nat.toDigits 16 c.toNat ++ ['}'])
  /-- Any other character stands for itself. -/
  | itself {c : Char} (other : c ∉ lettered)
      (printable : isUnprintable c = false) (alone : isExtending c = false) : Stands c [c]

theorem shortEscape?_eq_none_iff {c : Char} : shortEscape? c = none ↔ c ∉ lettered := by
  simp only [shortEscape?, lettered, List.mem_cons, List.not_mem_nil, or_false, not_or]
  grind

theorem stands_of_shortEscape? {c letter : Char} (short : shortEscape? c = some letter) :
    Stands c ['\\', letter] := by
  have mem : c ∈ lettered := by
    by_contra other
    rw [shortEscape?_eq_none_iff.mpr other] at short
    cases short
  simp only [lettered, List.mem_cons, List.not_mem_nil, or_false] at mem
  rcases mem with rfl | rfl | rfl | rfl | rfl | rfl <;> cases short
  · exact .null
  · exact .tab
  · exact .carriageReturn
  · exact .lineFeed
  · exact .doubleQuote
  · exact .backslash

theorem stands_encodeChar (c : Char) : Stands c (encodeChar c) := by
  cases short : shortEscape? c with
  | some letter =>
      rw [encodeChar, short]
      exact stands_of_shortEscape? short
  | none =>
      have other := shortEscape?_eq_none_iff.mp short
      rw [encodeChar, short]
      cases numbered : isNumbered c with
      | true =>
          simp only [isNumbered, Bool.or_eq_true] at numbered
          exact .number other numbered.symm
      | false =>
          simp only [isNumbered, Bool.or_eq_false_iff] at numbered
          exact .itself other numbered.2 numbered.1

/-- The characters of a text stand between quotes piece by piece. -/
theorem stands_encode (text : List Char) :
    ∃ pieces, List.Forall₂ Stands text pieces ∧ encode text = pieces.flatten := by
  refine ⟨text.map encodeChar, ?_, List.flatMap_def⟩
  rw [List.forall₂_map_right_iff, List.forall₂_same]
  exact fun c _ => stands_encodeChar c

/-! ## What is left between quotes -/

theorem ascii_digitChar : ∀ d < 16, ascii.covers (Nat.digitChar d) = true := by decide

theorem ascii_of_mem_toDigits {n : Nat} {c : Char} (mem : c ∈ Nat.toDigits 16 n) :
    ascii.covers c = true := by
  induction n using Nat.strongRecOn with
  | ind n ih =>
      by_cases low : n < 16
      · rw [Nat.toDigits_of_lt_base low, List.mem_singleton] at mem
        exact mem ▸ ascii_digitChar n low
      · rw [Nat.toDigits_of_base_le (by decide) (Nat.le_of_not_lt low), List.mem_append,
          List.mem_singleton] at mem
        rcases mem with mem | last
        · exact ih (n / 16) (Nat.div_lt_self (by omega) (by decide)) mem
        · exact last ▸ ascii_digitChar (n % 16) (Nat.mod_lt n (by decide))

theorem not_isNumbered_of_stands {c d : Char} {written : List Char} (stands : Stands c written)
    (mem : d ∈ written) : isNumbered d = false := by
  cases stands with
  | itself other printable alone =>
      rw [List.mem_singleton.mp mem, isNumbered, alone, printable]
      rfl
  | number other marked =>
      apply not_isNumbered_of_ascii
      simp only [List.mem_append, List.mem_cons, List.not_mem_nil, or_false] at mem
      rcases mem with ((rfl | rfl | rfl) | digit) | rfl
      · decide
      · decide
      · decide
      · exact ascii_of_mem_toDigits digit
      · decide
  | _ =>
      apply not_isNumbered_of_ascii
      simp only [List.mem_cons, List.not_mem_nil, or_false] at mem
      rcases mem with rfl | rfl <;> decide

/-- A quoted text holds no character that is unprintable or extends the one before it. -/
theorem not_isNumbered_of_mem_quote {text : String} {c : Char} (mem : c ∈ (quote text).toList) :
    isNumbered c = false := by
  rw [quote, String.toList_ofList] at mem
  simp only [List.cons_append, List.mem_cons, List.mem_append, List.not_mem_nil, or_false,
    encode, List.mem_flatMap] at mem
  rcases mem with rfl | ⟨original, -, mem⟩ | rfl
  · exact not_isNumbered_of_ascii (by decide)
  · exact not_isNumbered_of_stands (stands_encodeChar original) mem
  · exact not_isNumbered_of_ascii (by decide)

/-! ## No two texts are quoted alike -/

theorem quote_injective {text text' : String} (same : quote text = quote text') :
    text = text' := by
  have between : encode text.toList = encode text'.toList := by
    have chars := congrArg String.toList same
    simp only [quote, String.toList_ofList, List.cons_append, List.cons.injEq, true_and] at chars
    exact List.append_cancel_right chars
  have back := congrArg decode between
  rw [decode_encode, decode_encode, Option.some.injEq] at back
  exact String.toList_inj.mp back

end Quoted

end CheckHarness
