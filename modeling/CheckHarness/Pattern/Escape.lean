import CheckHarness.Pattern.Cursor
import CheckHarness.Pattern.Tree
import CheckHarness.Text.Radix

/-!
# Escapes

A backslash gives the next character another meaning.  Before a sign it takes the
meaning of the sign away.  Before a letter it stands for a control, a character
given by its number, a class of characters or an edge.  Letters without a meaning
are kept free, and digits would refer back to a group, which no pattern can.
-/

namespace CheckHarness.Pattern

open Scan

/-! ## Characters with a meaning -/

/-- The characters that mean something in a pattern. -/
def metaCharacters : List Char :=
  ['\\', '.', '+', '*', '?', '(', ')', '|', '[', ']', '\x7b', '\x7d', '^', '$', '#', '&', '-', '~']

/-- Whether a backslash takes the meaning of a character away: any sign of ASCII but
the angle brackets. -/
def isEscapable (c : Char) : Bool :=
  c ∈ metaCharacters || c.toNat < 128 && !c.isAlphanum && c ≠ '<' && c ≠ '>'

/-- The control that a letter stands for. -/
def controlMeaning? (letter : Char) : Option Char :=
  if letter = 'a' then some '\x07'
  else if letter = 'f' then some '\x0c'
  else if letter = 't' then some '\t'
  else if letter = 'n' then some '\n'
  else if letter = 'r' then some '\r'
  else if letter = 'v' then some '\x0b'
  else none

/-- The edge that a letter stands for. -/
def edgeMeaning? (letter : Char) : Option Edge :=
  if letter = 'A' then some .textStart
  else if letter = 'z' then some .textStop
  else if letter = 'b' then some .word
  else if letter = 'B' then some .notWord
  else if letter = '<' then some .wordStart
  else if letter = '>' then some .wordStop
  else none

/-- The class that a letter stands for, and whether it is negated. -/
def classMeaning? (letter : Char) : Option (LetterClass × Bool) :=
  if letter = 'd' then some (.digit, false)
  else if letter = 'D' then some (.digit, true)
  else if letter = 's' then some (.space, false)
  else if letter = 'S' then some (.space, true)
  else if letter = 'w' then some (.word, false)
  else if letter = 'W' then some (.word, true)
  else none

/-! ## Characters by number -/

/-- Whether a character is a hexadecimal digit. -/
def isHexDigit (c : Char) : Bool := (Radix.digit? c).isSome

/-- The character of a number in hexadecimal digits. -/
def charOfHex? (digits : List Char) : Option Char := do
  let n ← Radix.value? 16 digits
  guard n.isValidChar
  return Char.ofNat n

/-- How many digits a number without braces has. -/
def hexCount (letter : Char) : Nat :=
  if letter = 'x' then 2 else if letter = 'u' then 4 else 8

/-- The digits of a number without braces.  The cursor ends on the last of them. -/
def hexDigits : Nat → Scan (List Char)
  | 0 => return []
  | more + 1 => do
    match ← peek? with
    | none => failHere .escapeUnexpectedEnd
    | some c =>
      unless isHexDigit c do failChar .escapeHexInvalidDigit
      if more ≠ 0 then advance
      return c :: (← hexDigits more)

/-- A number without braces, in an escape that starts at a place. -/
def hexPlain (start : Place) (letter : Char) : Scan Literal := do
  let inner ← here
  let digits ← hexDigits (hexCount letter)
  advance
  match charOfHex? digits with
  | none => failFrom inner .escapeHexInvalid
  | some char => return { char, span := ⟨start, ← here⟩, isByte := letter = 'x' }

/-- A number in braces, in an escape that starts at a place. -/
def hexBraced (start : Place) : Scan Literal := do
  let brace ← here
  let inner := (← charSpan).stop
  advance
  let digits ← Scan.takeWhile isHexDigit advance
  match ← peek? with
  | none => failFrom brace .escapeUnexpectedEnd
  | some c =>
    unless c = '\x7d' do failChar .escapeHexInvalidDigit
    let stop ← here
    advance
    if digits = [] then failFrom brace .escapeHexEmpty
    match charOfHex? digits with
    | none => fail .escapeHexInvalid ⟨inner, stop⟩
    | some char => return { char, span := ⟨start, ← here⟩ }

/-- A character by its number.  The letter comes next. -/
def hex (start : Place) (letter : Char) : Scan Literal := do
  advance
  match ← peek? with
  | none => failHere .escapeUnexpectedEnd
  | some c => if c = '\x7b' then hexBraced start else hexPlain start letter

/-! ## Properties -/

/-- The name of a property, as it is written.  The letter of the escape comes next. -/
def propertyName : Scan String := do
  advance
  match ← peek? with
  | none => failHere .escapeUnexpectedEnd
  | some c =>
    if c = '\x7b' then
      advance
      let text ← Scan.takeWhile (· ≠ '\x7d') advance
      if ← atEnd then failHere .escapeUnexpectedEnd
      bump
      return String.ofList text
    else
      if c = '\\' then failChar .propertyNameInvalid
      advance
      return String.singleton c

/-! ## Edges of words -/

/-- The edge that a word in braces stands for. -/
def wordEdge? (name : String) : Option Edge :=
  if name = "start" then some .wordStart
  else if name = "end" then some .wordStop
  else if name = "start-half" then some .wordStartHalf
  else if name = "end-half" then some .wordStopHalf
  else none

/-- Whether a character may stand in the name of an edge. -/
def isEdgeNameChar (c : Char) : Bool := c.isAlpha || c = '-'

/-- The edge in braces behind the letter of an edge, in an escape that starts at a
place.  Braces that cannot hold the name of an edge are left for a repetition. -/
def bracedEdge? (start : Place) : Scan (Option Edge) := do
  let before ← get
  let brace ← here
  advance
  let inner ← here
  match ← peek? with
  | none => failFrom start .wordEdgeUnexpectedEnd
  | some c =>
    if isEdgeNameChar c then
      let name ← Scan.takeWhile isEdgeNameChar advance
      if (← peek?) ≠ some '\x7d' then failFrom brace .wordEdgeUnclosed
      let stop ← here
      bump
      match wordEdge? (String.ofList name) with
      | none => fail .wordEdgeUnrecognized ⟨inner, stop⟩
      | some kind => return some kind
    else
      set before
      return none

/-! ## Escapes -/

/-- An escape that is one letter or sign. -/
def shortEscape (start : Place) (c : Char) : Scan Atom := do
  bump
  let span : Span := ⟨start, ← here⟩
  if isEscapable c then return .literal { char := c, span }
  match controlMeaning? c, edgeMeaning? c with
  | some char, _ => return .literal { char, span }
  | none, some kind =>
    if kind = .word ∧ (← peek?) = some '\x7b' then
      match ← bracedEdge? start with
      | some kind => return .edge ⟨start, ← here⟩ kind
      | none => return .edge span kind
    else return .edge span kind
  | none, none => fail .escapeUnrecognized span

/-- An escape.  The backslash comes next. -/
def escapeAtom : Scan Atom := do
  let start ← here
  bump
  match ← peek? with
  | none => failFrom start .escapeUnexpectedEnd
  | some c =>
    if c.isDigit then fail .backreference ⟨start, (← charSpan).stop⟩
    else if c = 'x' ∨ c = 'u' ∨ c = 'U' then return .literal (← hex start c)
    else if c = 'p' ∨ c = 'P' then
      let name ← propertyName
      return .property ⟨start, ← here⟩ name
    else
      match classMeaning? c with
      | some (letterClass, negated) =>
        bump
        return .letterClass ⟨start, ← here⟩ letterClass negated
      | none => shortEscape start c

/-- A character that stands for itself, and is not the end. -/
def plainLiteral (c : Char) : Scan Literal := do
  let span ← charSpan
  bump
  return { char := c, span }

end CheckHarness.Pattern
