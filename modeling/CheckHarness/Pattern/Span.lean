/-!
# Places in a pattern

A place is a line and a column, both counted from one.  A span lies between two
places.
-/

namespace CheckHarness.Pattern

/-- A line and a column. -/
structure Place where
  line : Nat := 1
  column : Nat := 1
deriving DecidableEq, Repr

/-- The place behind a character. -/
def Place.after (place : Place) (c : Char) : Place :=
  if c = '\n' then ⟨place.line + 1, 1⟩ else ⟨place.line, place.column + 1⟩

/-- Whether a place comes before another. -/
def Place.isBefore (a b : Place) : Bool :=
  a.line < b.line || a.line = b.line && a.column < b.column

/-- What lies between two places. -/
structure Span where
  start : Place
  stop : Place
deriving DecidableEq, Repr

namespace Span

/-- The empty span at a place. -/
def point (place : Place) : Span := ⟨place, place⟩

/-- Whether a span lies on one line. -/
def isOneLine (span : Span) : Bool := span.start.line = span.stop.line

/-- Whether a span comes before another, by their starts and then by their ends. -/
def isBefore (a b : Span) : Bool :=
  a.start.isBefore b.start || a.start = b.start && a.stop.isBefore b.stop

end Span

end CheckHarness.Pattern
