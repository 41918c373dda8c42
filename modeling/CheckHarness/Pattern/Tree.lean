import CheckHarness.Pattern.Span

/-!
# Written patterns

A pattern as it is written, with the span of each part.  The spans are there for
the faults that only show when the whole pattern is known.
-/

namespace CheckHarness.Pattern

/-! ## Flags -/

/-- What can be turned on and off within a pattern. -/
inductive Flag where
  /-- Letters match in either case. -/
  | anyCase
  /-- Line anchors match at every line. -/
  | multiLine
  /-- The dot matches the line feed too. -/
  | dotAll
  /-- Repetitions are short unless marked. -/
  | swapGreed
  /-- Classes and words are those of Unicode. -/
  | unicode
  /-- A carriage return belongs to the end of a line. -/
  | crlf
  /-- White space and comments between the parts are skipped. -/
  | verbose
deriving DecidableEq, Repr

/-- A flag, or the sign that turns off the flags behind it. -/
inductive FlagItem where
  | negation
  | flag (kind : Flag)
deriving DecidableEq, Repr

/-- Whether a row of flags turns a flag on or off, if it does. -/
def flagState? (flag : Flag) (items : List FlagItem) : Option Bool :=
  if .flag flag ∈ items then some (.negation ∉ items.takeWhile (· ≠ .flag flag)) else none

/-! ## Single characters -/

/-- A character that stands for itself. -/
structure Literal where
  char : Char
  span : Span
  /-- Whether it is written as two hexadecimal digits, like a byte. -/
  isByte : Bool := false
deriving DecidableEq, Repr

/-- What a place in a text may have to be. -/
inductive Edge where
  | lineStart
  | lineStop
  | textStart
  | textStop
  | word
  | notWord
  | wordStart
  | wordStop
  | wordStartHalf
  | wordStopHalf
deriving DecidableEq, Repr

/-- The classes that a letter stands for. -/
inductive LetterClass where
  | digit
  | space
  | word
deriving DecidableEq, Repr

/-- The classes of ASCII that have a name. -/
inductive AsciiClass where
  | alnum
  | alpha
  | ascii
  | blank
  | cntrl
  | digit
  | graph
  | lower
  | print
  | punct
  | space
  | upper
  | word
  | xdigit
deriving DecidableEq, Repr

/-- The parts that are no composition of others. -/
inductive Atom where
  | literal (c : Literal)
  | dot (span : Span)
  | edge (span : Span) (kind : Edge)
  | letterClass (span : Span) (kind : LetterClass) (negated : Bool)
  | property (span : Span) (name : String)
deriving DecidableEq, Repr

/-- The span of an atom. -/
def Atom.span : Atom → Span
  | .literal c => c.span
  | .dot span | .edge span _ | .letterClass span _ _ | .property span _ => span

/-! ## Sets of characters -/

/-- How two sets are put together. -/
inductive SetOp where
  | intersection
  | difference
  | symmetricDifference
deriving DecidableEq, Repr

/-- A set of characters as it is written between brackets. -/
inductive SetTree where
  | empty (span : Span)
  | literal (c : Literal)
  | range (span : Span) (first last : Literal)
  | ascii (span : Span) (kind : AsciiClass) (negated : Bool)
  | letterClass (span : Span) (kind : LetterClass) (negated : Bool)
  | property (span : Span) (name : String)
  | bracketed (span : Span) (negated : Bool) (set : SetTree)
  | union (span : Span) (sets : List SetTree)
  | operation (span : Span) (op : SetOp) (left right : SetTree)
deriving Repr

/-- The span of a set. -/
def SetTree.span : SetTree → Span
  | .literal c => c.span
  | .empty span | .range span _ _ | .ascii span _ _ | .letterClass span _ _
  | .property span _ | .bracketed span _ _ | .union span _ | .operation span _ _ _ => span

/-! ## Patterns -/

/-- A pattern as it is written. -/
inductive Tree where
  | empty (span : Span)
  | flags (span : Span) (items : List FlagItem)
  | atom (part : Atom)
  | bracketed (span : Span) (negated : Bool) (set : SetTree)
  /-- A part that is repeated. -/
  | repeated (span : Span) (least : Nat) (most : Option Nat) (tree : Tree)
  /-- A part between parentheses, with the flags it sets for itself, and whether its
  place is kept. -/
  | group (span : Span) (isKept : Bool) (flags : List FlagItem) (tree : Tree)
  | choice (span : Span) (trees : List Tree)
  | sequence (span : Span) (trees : List Tree)
deriving Repr

/-- The span of a pattern. -/
def Tree.span : Tree → Span
  | .atom part => part.span
  | .empty span | .flags span _ | .bracketed span _ _ | .repeated span _ _ _
  | .group span _ _ _ | .choice span _ | .sequence span _ => span

/-! ## Depth -/

mutual

/-- The first part of a set that lies deeper than a limit, from a depth. -/
def SetTree.tooDeep? (limit depth : Nat) : SetTree → Option Span
  | .bracketed span _ set =>
    if limit ≤ depth then some span else set.tooDeep? limit (depth + 1)
  | .union span sets =>
    if limit ≤ depth then some span else SetTree.anyTooDeep? limit (depth + 1) sets
  | .operation span _ left right =>
    if limit ≤ depth then some span
    else (left.tooDeep? limit (depth + 1)).or (right.tooDeep? limit (depth + 1))
  | _ => none

/-- The first part of some sets that lies deeper than a limit. -/
def SetTree.anyTooDeep? (limit depth : Nat) : List SetTree → Option Span
  | [] => none
  | set :: sets => (set.tooDeep? limit depth).or (SetTree.anyTooDeep? limit depth sets)

end

mutual

/-- The first part of a pattern that lies deeper than a limit, from a depth. -/
def Tree.tooDeep? (limit depth : Nat) : Tree → Option Span
  | .bracketed span _ set =>
    if limit ≤ depth then some span else set.tooDeep? limit (depth + 1)
  | .repeated span _ _ tree | .group span _ _ tree =>
    if limit ≤ depth then some span else tree.tooDeep? limit (depth + 1)
  | .choice span trees | .sequence span trees =>
    if limit ≤ depth then some span else Tree.anyTooDeep? limit (depth + 1) trees
  | _ => none

/-- The first part of some patterns that lies deeper than a limit. -/
def Tree.anyTooDeep? (limit depth : Nat) : List Tree → Option Span
  | [] => none
  | tree :: trees => (tree.tooDeep? limit depth).or (Tree.anyTooDeep? limit depth trees)

end

end CheckHarness.Pattern
