import CheckHarness.Pattern.Escape

/-!
# Sets in brackets

A set is a row of characters, ranges, classes and further sets between brackets.
Behind the opening bracket a caret turns the set around.  Hyphens there, and a
closing bracket, stand for themselves.

Two rows may be put together by an operation, which binds weaker than standing in
a row.  Operations group to the left.  The sets that are still open, and the left
sides of their operations, are kept on a stack, the innermost first.
-/

namespace CheckHarness.Pattern

open Scan

/-! ## Rows -/

/-- A row of sets, the last one first. -/
structure SetRow where
  span : Span
  sets : List SetTree := []

/-- The row with one set more.  Its span lies around its sets. -/
def SetRow.push (row : SetRow) (set : SetTree) : SetRow where
  span := ⟨if row.sets.isEmpty then set.span.start else row.span.start, set.span.stop⟩
  sets := set :: row.sets

/-- The set that a row stands for. -/
def SetRow.toSet (row : SetRow) : SetTree :=
  match row.sets with
  | [] => .empty row.span
  | [set] => set
  | sets => .union row.span sets.reverse

/-- An empty row at the next place. -/
def newSetRow : Scan SetRow := do return { span := .point (← here) }

/-! ## Stacks -/

/-- What is still open. -/
inductive SetFrame where
  /-- A set, with the row it stands in and the span of its opening. -/
  | opened (row : SetRow) (span : Span) (negated : Bool)
  /-- An operation, with its left side. -/
  | operation (op : SetOp) (left : SetTree)

/-- The span of the opening of the innermost set. -/
def openedSpan? : List SetFrame → Option Span
  | [] => none
  | .opened _ span _ :: _ => some span
  | .operation _ _ :: frames => openedSpan? frames

/-- Stops because the innermost set is not closed. -/
def failUnclosed {α : Type} (frames : List SetFrame) : Scan α := do
  match openedSpan? frames with
  | some span => fail .classUnclosed span
  | none => failHere .classUnclosed

/-- The operation that a set is the right side of, and the frames around it. -/
def closeOperation (right : SetTree) : List SetFrame → SetTree × List SetFrame
  | .operation op left :: frames =>
    (.operation ⟨left.span.start, right.span.stop⟩ op left right, frames)
  | frames => (right, frames)

/-! ## Members of a row -/

/-- The classes of ASCII by name. -/
def asciiClasses : List (String × AsciiClass) :=
  [("alnum", .alnum), ("alpha", .alpha), ("ascii", .ascii), ("blank", .blank), ("cntrl", .cntrl),
    ("digit", .digit), ("graph", .graph), ("lower", .lower), ("print", .print),
    ("punct", .punct), ("space", .space), ("upper", .upper), ("word", .word),
    ("xdigit", .xdigit)]

/-- The class that a name between colons and brackets stands for, whether it is
negated, and the text behind it. -/
def asciiClass? (text : List Char) : Option (AsciiClass × Bool × List Char) :=
  match text with
  | '[' :: ':' :: inner =>
    let negated := inner.head? = some '^'
    let inner := if negated then inner.drop 1 else inner
    let name := inner.takeWhile (· ≠ ':')
    match inner.dropWhile (· ≠ ':') with
    | ':' :: ']' :: behind =>
      (asciiClasses.lookup (String.ofList name)).map fun kind => (kind, negated, behind)
    | _ => none
  | _ => none

/-- A class of ASCII, if one comes next. -/
def asciiSet? : Scan (Option SetTree) := do
  let cursor ← get
  match asciiClass? cursor.rest with
  | none => return none
  | some (kind, negated, behind) =>
    let count := cursor.rest.length - behind.length
    let _ ← bumpIf (cursor.rest.take count)
    return some (.ascii ⟨cursor.place, ← here⟩ kind negated)

/-- One character or escape. -/
def setAtom (c : Char) : Scan Atom := do
  if c = '\\' then escapeAtom else return .literal (← plainLiteral c)

/-- A character or class as a member of a row. -/
def Atom.toSet : Atom → Scan SetTree
  | .literal c => return .literal c
  | .letterClass span kind negated => return .letterClass span kind negated
  | .property span name => return .property span name
  | atom => fail .classEscapeInvalid atom.span

/-- A character as the end of a range. -/
def Atom.toLiteral : Atom → Scan Literal
  | .literal c => return c
  | atom => fail .classRangeLiteral atom.span

/-- A character, a class, or a range between two characters. -/
def setMember (frames : List SetFrame) (c : Char) : Scan SetTree := do
  let first ← setAtom c
  skipSpace
  match ← peek? with
  | none => failUnclosed frames
  | some d =>
    let behind ← secondUnskipped?
    if d ≠ '-' ∨ behind = some ']' ∨ behind = some '-' then first.toSet
    else
      advance
      match ← peek? with
      | none => failUnclosed frames
      | some e =>
        let last ← setAtom e
        let span : Span := ⟨first.span.start, last.span.stop⟩
        let first ← first.toLiteral
        let last ← last.toLiteral
        if last.char < first.char then fail .classRangeInvalid span
        return .range span first last

/-! ## Openings -/

/-- The hyphens behind an opening, each a member of the row. -/
def leadingHyphens (start : Place) : Nat → SetRow → Scan SetRow
  | 0, row => return row
  | most + 1, row => do
    if (← peek?) = some '-' then
      let span ← charSpan
      advance
      if ← atEnd then fail .classUnclosed (.point start)
      leadingHyphens start most (row.push (.literal { char := '-', span }))
    else return row

/-- The opening of a set: the first members of its row, its span so far and whether
it is turned around. -/
def openSet : Scan (SetRow × Span × Bool) := do
  let start ← here
  advance
  if ← atEnd then failFrom start .classUnclosed
  let negated := (← peek?) = some '^'
  if negated then
    advance
    if ← atEnd then failFrom start .classUnclosed
  let row ← leadingHyphens start (← get).rest.length (← newSetRow)
  if row.sets.isEmpty ∧ (← peek?) = some ']' then
    let span ← charSpan
    advance
    if ← atEnd then failFrom start .classUnclosed
    return (row.push (.literal { char := ']', span }), ⟨start, ← here⟩, negated)
  return (row, ⟨start, ← here⟩, negated)

/-! ## Whole sets -/

/-- The operation whose sign comes next. -/
def setOp? : Scan (Option SetOp) := do
  match ← peek?, ← second? with
  | some '&', some '&' => return some .intersection
  | some '-', some '-' => return some .difference
  | some '~', some '~' => return some .symmetricDifference
  | _, _ => return none

/-- Reads on in a row, up to the end of the outermost set.  Each step takes at least
one character, so their number bounds the steps. -/
def setFrom : Nat → SetRow → List SetFrame → Scan Tree
  | 0, _, frames => failUnclosed frames
  | steps + 1, row, frames => do
    skipSpace
    match ← peek? with
    | none => failUnclosed frames
    | some c =>
      if c = '[' then
        let ascii ← if frames.isEmpty then pure none else asciiSet?
        match ascii with
        | some set => setFrom steps (row.push set) frames
        | none =>
          let (inner, span, negated) ← openSet
          setFrom steps inner (.opened row span negated :: frames)
      else if c = ']' then
        let (set, frames) := closeOperation row.toSet frames
        bump
        match frames with
        | .opened outer span negated :: frames =>
          let span : Span := ⟨span.start, ← here⟩
          if frames.isEmpty then return .bracketed span negated set
          else setFrom steps (outer.push (.bracketed span negated set)) frames
        | _ => return .bracketed row.span false set
      else
        match ← setOp? with
        | some op =>
          bump
          bump
          let (left, frames) := closeOperation row.toSet frames
          setFrom steps (← newSetRow) (.operation op left :: frames)
        | none =>
          let set ← setMember frames c
          setFrom steps (row.push set) frames

/-- A set.  Its opening bracket comes next. -/
def bracketedTree : Scan Tree := do
  setFrom ((← get).rest.length + 1) (← newSetRow) []

end CheckHarness.Pattern
