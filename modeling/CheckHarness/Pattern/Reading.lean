import CheckHarness.Pattern.Bracket
import CheckHarness.Text.Letter

/-!
# Reading a pattern

The parts of a pattern are read from left to right.  Parts in a row follow one
another in a text too, and bars between rows leave a choice.  A repetition takes the
last part of its row.  The groups that are still open, and the rows of their
choices, are kept on a stack, the innermost first.

`Tree.ofText` gives the whole pattern, or the first fault.  Only when all is read
does it come out whether the pattern is too deep.
-/

namespace CheckHarness.Pattern

open Scan

/-! ## Rows and stacks -/

/-- A row of parts, the last one first. -/
structure Row where
  start : Place
  trees : List Tree := []

/-- The pattern that a row stands for, if it ends at a place. -/
def Row.toTree (row : Row) (stop : Place) : Tree :=
  match row.trees with
  | [] => .empty ⟨row.start, stop⟩
  | [tree] => tree
  | trees => .sequence ⟨row.start, stop⟩ trees.reverse

/-- The row with one part more. -/
def Row.push (row : Row) (tree : Tree) : Row := { row with trees := tree :: row.trees }

/-- What is still open. -/
inductive Frame where
  /-- A group, with the row it stands in, the span of its opening, whether its place
  is kept, the flags it sets and whether the row is verbose. -/
  | group (row : Row) (span : Span) (isKept : Bool) (flags : List FlagItem) (verbose : Bool)
  /-- A choice, with its start and the rows it has, the last one first. -/
  | choice (start : Place) (trees : List Tree)

/-- How far the parts are read. -/
structure Reading where
  row : Row
  frames : List Frame := []
  /-- The names of the groups and where they stand. -/
  names : List (String × Span) := []

/-- An empty row at the next place. -/
def newRow : Scan Row := do return { start := ← here }

/-- Turns verbose reading on or off. -/
def setVerbose (verbose : Bool) : Scan Unit :=
  modify fun cursor => { cursor with verbose }

/-! ## Repetitions -/

/-- The part that a repetition takes, and the row without it. -/
def takeLast (row : Row) : Scan (Tree × Row) := do
  match row.trees with
  | [] => failHere .repetitionMissing
  | .empty _ :: _ | .flags _ _ :: _ => failHere .repetitionMissing
  | tree :: trees => return (tree, { row with trees })

/-- Moves behind a question mark, which makes a repetition short. -/
def skipGreed : Scan Unit := do
  if (← peek?) = some '?' then bump

/-- A repetition by one sign. -/
def repetition (row : Row) (least : Nat) (most : Option Nat) : Scan Row := do
  let (tree, row) ← takeLast row
  bump
  skipGreed
  return row.push (.repeated ⟨tree.span.start, ← here⟩ least most tree)

/-- A decimal number, between white space.  A fault is a value here, since a missing
number is no fault yet. -/
def decimal : Scan (Except Fault Nat) := do
  let _ ← Scan.takeWhile isSpace bump
  let start ← here
  let digits ← Scan.takeWhile Char.isDigit advance
  let span : Span := ⟨start, ← here⟩
  let _ ← Scan.takeWhile isSpace advance
  if digits = [] then return .error { kind := .repetitionCountMissing, span }
  match Radix.value? 10 digits with
  | some n => return if n < UInt32.size then .ok n else .error { kind := .decimalInvalid, span }
  | none => return .error { kind := .decimalInvalid, span }

/-- The counts in the braces of a repetition.  Only the greatest may be missing. -/
def counts (start : Place) : Scan (Nat × Option Nat) := do
  let first ← decimal
  match ← peek? with
  | none => failFrom start .repetitionCountUnclosed
  | some ',' =>
    advance
    match ← peek? with
    | none => failFrom start .repetitionCountUnclosed
    | some '\x7d' => return (← first, none)
    | some _ =>
      let least ← first
      let most ← (← decimal)
      return (least, some most)
  | some _ =>
    let n ← first
    return (n, some n)

/-- A repetition by counts in braces. -/
def countedRepetition (row : Row) : Scan Row := do
  let start ← here
  let (tree, row) ← takeLast row
  advance
  if ← atEnd then failFrom start .repetitionCountUnclosed
  let (least, most) ← counts start
  if (← peek?) ≠ some '\x7d' then failFrom start .repetitionCountUnclosed
  advance
  skipGreed
  if most.any (· < least) then failFrom start .repetitionCountInvalid
  return row.push (.repeated ⟨tree.span.start, ← here⟩ least most tree)

/-! ## Flags -/

/-- The flag that a letter stands for. -/
def flagOfLetter? (letter : Char) : Option Flag :=
  [('i', Flag.anyCase), ('m', .multiLine), ('s', .dotAll), ('U', .swapGreed), ('u', .unicode),
    ('R', .crlf), ('x', .verbose)].lookup letter

/-- Flags with the span of each, up to a colon or a closing parenthesis. -/
def flagItems : Nat → List (FlagItem × Span) → Scan (List (FlagItem × Span))
  | 0, items => return items
  | most + 1, items => do
    match ← peek? with
    | none => failHere .flagUnexpectedEnd
    | some c =>
      if c = ':' ∨ c = ')' then
        match items.getLast? with
        | some (.negation, span) => fail .flagDanglingNegation span
        | _ => return items
      else
        let span ← charSpan
        let item ←
          if c = '-' then pure FlagItem.negation
          else
            match flagOfLetter? c with
            | some flag => pure (FlagItem.flag flag)
            | none => fail .flagUnrecognized span
        match items.lookup item with
        | some other =>
          let kind := if c = '-' then .flagRepeatedNegation else .flagDuplicate
          throw { kind, span, other := some other }
        | none =>
          bump
          flagItems most (items ++ [(item, span)])

/-! ## Groups -/

/-- Whether a character may stand in the name of a group. -/
def isNameChar (isFirst : Bool) (c : Char) : Bool :=
  if isFirst then c = '_' || isAlphabetic c
  else c = '_' || c = '.' || c = '[' || c = ']' || isAlphanumeric c

/-- The characters of a name, up to the closing angle bracket or the end. -/
def nameChars (isFirst : Bool) : Nat → Scan (List Char)
  | 0 => return []
  | most + 1 => do
    match ← peek? with
    | none => return []
    | some c =>
      if c = '>' then return []
      unless isNameChar isFirst c do failChar .groupNameInvalid
      bump
      return c :: (← nameChars false most)

/-- The name of a group and its span. -/
def groupName (names : List (String × Span)) : Scan (String × Span) := do
  if ← atEnd then failHere .groupNameUnexpectedEnd
  let start ← here
  let name := String.ofList (← nameChars true (← get).rest.length)
  let span : Span := ⟨start, ← here⟩
  if ← atEnd then failHere .groupNameUnexpectedEnd
  bump
  if name = "" then fail .groupNameEmpty (.point start)
  match names.lookup name with
  | some other => throw { kind := .groupNameDuplicate, span, other := some other }
  | none => return (name, span)

/-- Whether a look ahead or behind starts here. -/
def lookAround : Scan Bool := do
  if ← bumpIf ['?', '='] then return true
  if ← bumpIf ['?', '!'] then return true
  if ← bumpIf ['?', '<', '='] then return true
  bumpIf ['?', '<', '!']

/-- Opens a group inside the row. -/
def Reading.openGroup (r : Reading) (span : Span) (isKept : Bool) (flags : List FlagItem) :
    Scan Reading := do
  let verbose := (← get).verbose
  setVerbose ((flagState? .verbose flags).getD verbose)
  return { r with row := ← newRow, frames := .group r.row span isKept flags verbose :: r.frames }

/-- What starts with an opening parenthesis: a group, or flags for the rest of the
group around them. -/
def Reading.parenthesis (r : Reading) : Scan Reading := do
  let span ← charSpan
  bump
  skipSpace
  if ← lookAround then failFrom span.start .lookAround
  let inner ← here
  let isNamed := (← bumpIf ['?', 'P', '<']) || (← bumpIf ['?', '<'])
  if isNamed then
    let name ← groupName r.names
    { r with names := name :: r.names }.openGroup span true []
  else if ← bumpIf ['?'] then
    if ← atEnd then fail .groupUnclosed span
    let items ← flagItems ((← get).rest.length + 1) []
    let flags := items.map Prod.fst
    let isGroup := (← peek?) = some ':'
    bump
    if isGroup then r.openGroup span false flags
    else
      if flags = [] then fail .repetitionMissing (.point inner)
      match flagState? .verbose flags with
      | some verbose => setVerbose verbose
      | none => pure ()
      return { r with row := r.row.push (.flags ⟨span.start, ← here⟩ flags) }
  else r.openGroup span true []

/-- Puts the row behind a group that is now closed. -/
def Reading.closeGroup (r : Reading) : Scan Reading := do
  let stop ← here
  let finish (tree : Tree) : List Frame → Scan Reading
    | .group row span isKept flags verbose :: frames => do
      setVerbose verbose
      bump
      return { r with row := row.push (.group ⟨span.start, ← here⟩ isKept flags tree), frames }
    | _ => failChar .groupUnopened
  let tree := r.row.toTree stop
  match r.frames with
  | .choice start trees :: frames =>
    finish (.choice ⟨start, stop⟩ (tree :: trees).reverse) frames
  | frames => finish tree frames

/-- Leaves a choice between the row and the next one. -/
def Reading.bar (r : Reading) : Scan Reading := do
  let tree := r.row.toTree (← here)
  bump
  let row ← newRow
  match r.frames with
  | .choice start trees :: frames =>
    return { r with row, frames := .choice start (tree :: trees) :: frames }
  | frames => return { r with row, frames := .choice r.row.start [tree] :: frames }

/-! ## Whole patterns -/

/-- A part that is no composition of others. -/
def atom (c : Char) : Scan Atom := do
  if c = '\\' then escapeAtom
  else
    let literal ← plainLiteral c
    if c = '.' then return .dot literal.span
    else if c = '^' then return .edge literal.span .lineStart
    else if c = '$' then return .edge literal.span .lineStop
    else return .literal literal

/-- Reads what starts with a character. -/
def Reading.step (r : Reading) (c : Char) : Scan Reading := do
  if c = '(' then r.parenthesis
  else if c = ')' then r.closeGroup
  else if c = '|' then r.bar
  else if c = '[' then return { r with row := r.row.push (← bracketedTree) }
  else if c = '?' then return { r with row := ← repetition r.row 0 (some 1) }
  else if c = '*' then return { r with row := ← repetition r.row 0 none }
  else if c = '+' then return { r with row := ← repetition r.row 1 none }
  else if c = '\x7b' then return { r with row := ← countedRepetition r.row }
  else return { r with row := r.row.push (.atom (← atom c)) }

/-- Reads on to the end.  Each step takes at least one character, so their number
bounds the steps. -/
def Reading.steps : Nat → Reading → Scan Reading
  | 0, r => return r
  | most + 1, r => do
    skipSpace
    match ← peek? with
    | none => return r
    | some c => (← r.step c).steps most

/-- The pattern at the end, if nothing is open. -/
def Reading.finish (r : Reading) : Scan Tree := do
  let stop ← here
  let tree := r.row.toTree stop
  match r.frames with
  | [] => return tree
  | .group _ span _ _ _ :: _ => fail .groupUnclosed span
  | .choice start trees :: frames =>
    match frames with
    | .group _ span _ _ _ :: _ => fail .groupUnclosed span
    | _ => return .choice ⟨start, stop⟩ (tree :: trees).reverse

/-- How deep the parts of a pattern may lie. -/
def depthLimit : Nat := 250

/-- The pattern that a text is. -/
def Tree.scan : Scan Tree := do
  let r ← Reading.steps ((← get).rest.length + 1) { row := ← newRow }
  let tree ← r.finish
  match tree.tooDeep? depthLimit 0 with
  | some span => fail (.nestTooDeep depthLimit) span
  | none => return tree

/-- The pattern that a text is. -/
def Tree.ofText (text : String) : Except Fault Tree := Tree.scan.run' { rest := text.toList }

end CheckHarness.Pattern
