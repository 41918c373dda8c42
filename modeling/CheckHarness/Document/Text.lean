import CheckHarness.Document.Blank
import CheckHarness.Text.Radix

/-!
# Texts in a document

A text is written between double quotes, where a backslash starts an escape, or
between single quotes, where every character stands for itself.  Three quotes in
a row open a text of several lines, of which a line end right behind the quotes
is no part.  Such a text may hold one or two quotes in a row, also right before
the quotes that close it.  A backslash at the end of a line joins the line to the
next text that is not blank.

Each reader starts behind the opening quotes, and gives the text and what follows
the closing quotes.
-/

namespace CheckHarness.Document

/-- The quote of texts without escapes. -/
abbrev singleQuote : Char := '\x27'

/-! ## Escapes -/

/-- A character given by a fixed number of hexadecimal digits. -/
def codePoint (count : Nat) (text : List Char) : Option (Char × List Char) := do
  guard (count ≤ text.length)
  let n ← Radix.value? 16 (text.take count)
  guard n.isValidChar
  return (Char.ofNat n, text.drop count)

/-- The character a letter behind a backslash stands for. -/
def escapeMeaning? (letter : Char) : Option Char :=
  if letter = 'b' then some '\x08'
  else if letter = 't' then some '\t'
  else if letter = 'n' then some '\n'
  else if letter = 'f' then some '\x0c'
  else if letter = 'r' then some '\r'
  else if letter = '"' ∨ letter = '\\' then some letter
  else none

/-- The character an escape stands for, and what follows.  The text starts behind
the backslash. -/
def escape : List Char → Option (Char × List Char)
  | [] => none
  | letter :: rest =>
    if letter = 'u' then codePoint 4 rest
    else if letter = 'U' then codePoint 8 rest
    else (escapeMeaning? letter).map fun meant => (meant, rest)

theorem length_codePoint_le {count : Nat} {text rest : List Char} {c : Char}
    (h : codePoint count text = some (c, rest)) : rest.length ≤ text.length := by
  obtain ⟨_, _, h⟩ := Option.bind_eq_some_iff.mp h
  obtain ⟨_, _, h⟩ := Option.bind_eq_some_iff.mp h
  obtain ⟨_, _, h⟩ := Option.bind_eq_some_iff.mp h
  cases h
  simp

theorem length_escape_lt {text rest : List Char} {c : Char}
    (h : escape text = some (c, rest)) : rest.length < text.length := by
  cases text with
  | nil => simp [escape] at h
  | cons letter behind =>
    simp only [escape] at h
    split at h
    · exact Nat.lt_succ_of_le (length_codePoint_le h)
    · split at h
      · exact Nat.lt_succ_of_le (length_codePoint_le h)
      · simp only [Option.map_eq_some_iff] at h
        obtain ⟨_, _, h⟩ := h
        cases h
        simp

/-! ## Texts of one line -/

/-- What a reader gives when it has met one more character of the text. -/
def withFirst (c : Char) (read : List Char × List Char) : List Char × List Char :=
  (c :: read.1, read.2)

/-- A text between single quotes. -/
def literal : List Char → Option (List Char × List Char)
  | [] => none
  | c :: rest =>
    if c = singleQuote then some ([], rest)
    else if isAllowed c then (literal rest).map (withFirst c)
    else none

/-- A text between double quotes. -/
def basic (text : List Char) : Option (List Char × List Char) :=
  match text with
  | [] => none
  | c :: rest =>
    if c = '"' then some ([], rest)
    else if c = '\\' then
      match h : escape rest with
      | none => none
      | some (meant, behind) =>
        have := length_escape_lt h
        (basic behind).map (withFirst meant)
    else if isAllowed c then (basic rest).map (withFirst c)
    else none
termination_by text.length
decreasing_by all_goals simp_all; try omega

/-! ## Texts of several lines -/

/-- The quotes that belong to a text although they stand right before its closing
quotes.  The text given starts behind three quotes. -/
def closing (quote : Char) : List Char → List Char × List Char
  | c :: d :: rest =>
    if c = quote ∧ d = quote then ([c, d], rest)
    else if c = quote then ([c], d :: rest)
    else ([], c :: d :: rest)
  | [c] => if c = quote then ([c], []) else ([], [c])
  | [] => ([], [])

/-- Whether a text starts with three quotes. -/
def isClosed (quote : Char) (text : List Char) : Bool :=
  [quote, quote, quote].isPrefixOf text

/-- A text of several lines between single quotes. -/
def multiLiteral (text : List Char) : Option (List Char × List Char) :=
  if isClosed singleQuote text then some (closing singleQuote (text.drop 3))
  else
    match text with
    | [] => none
    | '\n' :: rest => (multiLiteral rest).map (withFirst '\n')
    | '\r' :: '\n' :: rest => (multiLiteral rest).map (withFirst '\n')
    | c :: rest => if isAllowed c then (multiLiteral rest).map (withFirst c) else none

/-- A text of several lines between double quotes. -/
def multiBasic (text : List Char) : Option (List Char × List Char) :=
  if isClosed '"' text then some (closing '"' (text.drop 3))
  else
    match text with
    | [] => none
    | '\n' :: rest => (multiBasic rest).map (withFirst '\n')
    | '\r' :: '\n' :: rest => (multiBasic rest).map (withFirst '\n')
    | '\\' :: rest =>
      match h : lineEnd? (dropBlanks rest) with
      | some behind =>
        have := length_lineEnd?_lt h
        have := length_dropBlanks_le rest
        have := length_dropGap_le behind
        multiBasic (dropGap behind)
      | none =>
        match h : escape rest with
        | none => none
        | some (meant, behind) =>
          have := length_escape_lt h
          (multiBasic behind).map (withFirst meant)
    | c :: rest => if isAllowed c then (multiBasic rest).map (withFirst c) else none
termination_by text.length
decreasing_by all_goals simp_all; try omega

/-- The text behind a line end, if it starts with one, and else the same text. -/
def skipLineEnd (text : List Char) : List Char := (lineEnd? text).getD text

/-- A text in quotes of any sort, with what follows. -/
def quoted? : List Char → Option (List Char × List Char)
  | '"' :: '"' :: '"' :: rest => multiBasic (skipLineEnd rest)
  | '"' :: rest => basic rest
  | '\x27' :: '\x27' :: '\x27' :: rest => multiLiteral (skipLineEnd rest)
  | '\x27' :: rest => literal rest
  | _ => none

end CheckHarness.Document
