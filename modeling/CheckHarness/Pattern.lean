import CheckHarness.Pattern.Meaning
import CheckHarness.Pattern.Reading
import CheckHarness.Pattern.Room

/-!
# Patterns in texts

A text is read as a pattern.  It may have a fault.  Or it may be fine and still be
refused, because it asks for the words of Unicode, or takes too much room.
-/

namespace CheckHarness.Pattern

/-- Why a text gives no pattern. -/
inductive Defect where
  | faulty (what : Fault)
  | tooLarge
  | wordsUnknown
deriving DecidableEq, Repr

/-- The lines a defect of a text is shown as. -/
def Defect.lines (text : String) : Defect → List String
  | .faulty what => what.lines text
  | .tooLarge => ["Compiled regex exceeds size limit of " ++ roomLimit.repr ++ " bytes."]
  | .wordsUnknown => ["error building NFA"]

/-- Whether a pattern asks for the words of Unicode. -/
def asksForWords : Pattern → Bool
  | .empty | .one _ => false
  | .edge kind modes => kind.isOfWord && modes.unicode
  | .group pattern | .repeated _ _ pattern => asksForWords pattern
  | .both first second | .either first second => asksForWords first || asksForWords second

/-- The pattern, unless it is refused. -/
def accepted (pattern : Pattern) : Except Defect Pattern := do
  if roomLimit < pattern.room .forward then throw .tooLarge
  if pattern.asksForWords then throw .wordsUnknown
  if roomLimit < pattern.room .backward then throw .tooLarge
  return pattern

/-- The pattern that a text means. -/
def ofText (text : String) : Except Defect Pattern := do
  let tree ← (Tree.ofText text).mapError .faulty
  let (pattern, _) ← (tree.meaning {}).mapError .faulty
  pattern.accepted

end CheckHarness.Pattern
