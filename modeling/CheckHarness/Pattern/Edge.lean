import CheckHarness.Pattern.CharSet
import CheckHarness.Pattern.Modes

/-!
# Edges

A place in a text is known by the characters around it.  An edge demands something of
a place and takes no character.  The words of ASCII are known; those of Unicode are
not, so a pattern that asks for them is refused.
-/

namespace CheckHarness.Pattern

/-! ## Places in a text -/

/-- A place in a text, by the characters around it. -/
structure Gap where
  before : Option Char
  behind : Option Char
deriving DecidableEq, Repr

/-- The places of a text behind a character. -/
def gapsFrom (before : Option Char) : List Char → List Gap
  | [] => [⟨before, none⟩]
  | c :: rest => ⟨before, some c⟩ :: gapsFrom (some c) rest

/-- The places of a text. -/
def gaps (text : List Char) : List Gap := gapsFrom none text

theorem length_gapsFrom (before : Option Char) (text : List Char) :
    (gapsFrom before text).length = text.length + 1 := by
  induction text generalizing before with
  | nil => rfl
  | cons c rest ih => simp [gapsFrom, ih]

/-- A text has one place more than it has characters. -/
theorem length_gaps (text : List Char) : (gaps text).length = text.length + 1 :=
  length_gapsFrom none text

/-! ## Demands -/

/-- Whether a line starts at a place. -/
def isLineStart (modes : Modes) (gap : Gap) : Bool :=
  gap.before = none || modes.multiLine &&
    (gap.before = some '\n' || modes.crlf && gap.before = some '\r' && gap.behind ≠ some '\n')

/-- Whether a line stops at a place. -/
def isLineStop (modes : Modes) (gap : Gap) : Bool :=
  gap.behind = none || modes.multiLine &&
    if modes.crlf then
      gap.behind = some '\r' || gap.behind = some '\n' && gap.before ≠ some '\r'
    else gap.behind = some '\n'

/-- Whether a character that may be missing is part of a word. -/
def isWordPart (c : Option Char) : Bool := c.any (CharSet.ofAscii .word).has

/-- Whether a place is an edge. -/
def Edge.holds (modes : Modes) (edge : Edge) (gap : Gap) : Bool :=
  let before := isWordPart gap.before
  let behind := isWordPart gap.behind
  match edge with
  | .lineStart => isLineStart modes gap
  | .lineStop => isLineStop modes gap
  | .textStart => gap.before = none
  | .textStop => gap.behind = none
  | .word => before != behind
  | .notWord => before == behind
  | .wordStart => !before && behind
  | .wordStop => before && !behind
  | .wordStartHalf => !before
  | .wordStopHalf => !behind

/-- Whether an edge asks for words. -/
def Edge.isOfWord : Edge → Bool
  | .lineStart | .lineStop | .textStart | .textStop => false
  | .word | .notWord | .wordStart | .wordStop | .wordStartHalf | .wordStopHalf => true

end CheckHarness.Pattern
