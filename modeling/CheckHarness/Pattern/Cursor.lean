import CheckHarness.Pattern.Fault
import CheckHarness.Text.Space

/-!
# Cursors

How far a pattern is read.  A cursor moves on by one character, or by one character
and whatever is skipped behind it.  Only a verbose reader skips anything: white
space, and comments from a number sign to the end of the line.
-/

namespace CheckHarness.Pattern

/-- How far a pattern is read. -/
structure Cursor where
  /-- What is still to be read. -/
  rest : List Char
  place : Place := {}
  verbose : Bool := false

/-- A reader of a part of a pattern. -/
abbrev Scan := StateT Cursor (Except Fault)

namespace Cursor

/-- The cursor one character on. -/
def next (cursor : Cursor) : Cursor :=
  match cursor.rest with
  | [] => cursor
  | c :: rest => { cursor with rest, place := cursor.place.after c }

/-- The place and the text behind white space and comments. -/
def skip (inComment : Bool) : Place → List Char → Place × List Char
  | place, [] => (place, [])
  | place, c :: rest =>
    if inComment then skip (c ≠ '\n') (place.after c) rest
    else if isSpace c then skip false (place.after c) rest
    else if c = '#' then skip true (place.after c) rest
    else (place, c :: rest)

/-- The cursor behind white space and comments, if it is verbose. -/
def skipped (cursor : Cursor) : Cursor :=
  if cursor.verbose then
    let (place, rest) := skip false cursor.place cursor.rest
    { cursor with rest, place }
  else cursor

end Cursor

namespace Scan

variable {α : Type}

/-! ## Looking -/

/-- The next character. -/
def peek? : Scan (Option Char) := do return (← get).rest.head?

/-- The character behind the next one. -/
def second? : Scan (Option Char) := do return (← get).rest[1]?

/-- The first character behind the next one that a verbose reader does not skip.  A
comment hides its number sign and the white space in front of its text only. -/
def secondUnskipped? : Scan (Option Char) := do
  let cursor ← get
  let behind := cursor.rest.drop 1
  if cursor.verbose then
    let unspaced := behind.dropWhile isSpace
    match unspaced with
    | '#' :: comment => return (comment.dropWhile isSpace).head?
    | _ => return unspaced.head?
  else return behind.head?

/-- Whether the pattern is read to its end. -/
def atEnd : Scan Bool := do return (← get).rest.isEmpty

/-- The place of the next character. -/
def here : Scan Place := do return (← get).place

/-- The span of the next character. -/
def charSpan : Scan Span := do
  let cursor ← get
  return ⟨cursor.place, cursor.next.place⟩

/-! ## Moving -/

/-- Moves on by one character. -/
def bump : Scan Unit := modify Cursor.next

/-- Skips what a verbose reader skips. -/
def skipSpace : Scan Unit := modify Cursor.skipped

/-- Moves on by one character and what is skipped behind it. -/
def advance : Scan Unit := do
  bump
  skipSpace

/-- Moves behind a text, if it comes next. -/
def bumpIf (text : List Char) : Scan Bool := do
  let cursor ← get
  if text.isPrefixOf cursor.rest then
    set (text.foldl (fun cursor _ => cursor.next) cursor)
    return true
  else return false

/-- Takes characters while they are wanted, and moves on from each in the same way.
The number bounds how many are taken. -/
def takeUpTo (wanted : Char → Bool) (move : Scan Unit) : Nat → Scan (List Char)
  | 0 => return []
  | most + 1 => do
    match ← peek? with
    | none => return []
    | some c =>
      if wanted c then
        move
        return c :: (← takeUpTo wanted move most)
      else return []

/-- Takes characters while they are wanted. -/
def takeWhile (wanted : Char → Bool) (move : Scan Unit) : Scan (List Char) := do
  takeUpTo wanted move (← get).rest.length

/-! ## Faults -/

/-- Stops with a fault. -/
def fail (kind : FaultKind) (span : Span) : Scan α := throw { kind, span }

/-- Stops with a fault of what is read since a place. -/
def failFrom (start : Place) (kind : FaultKind) : Scan α := do fail kind ⟨start, ← here⟩

/-- Stops with a fault at the next place. -/
def failHere (kind : FaultKind) : Scan α := do fail kind (.point (← here))

/-- Stops with a fault of the next character. -/
def failChar (kind : FaultKind) : Scan α := do fail kind (← charSpan)

end Scan

end CheckHarness.Pattern
