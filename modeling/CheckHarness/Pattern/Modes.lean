import CheckHarness.Pattern.Tree

/-!
# Modes

What the flags of a pattern turn on.  A flag counts for all that stands behind it, up
to the end of its group.  How greedy repetitions are makes no difference to where a
pattern occurs, and blanks are skipped by the reader, so neither is a mode.
-/

namespace CheckHarness.Pattern

/-- What is turned on. -/
structure Modes where
  anyCase : Bool := false
  multiLine : Bool := false
  dotAll : Bool := false
  unicode : Bool := true
  crlf : Bool := false
deriving DecidableEq, Repr

/-- The modes behind some flags. -/
def Modes.after (modes : Modes) (items : List FlagItem) : Modes where
  anyCase := (flagState? .anyCase items).getD modes.anyCase
  multiLine := (flagState? .multiLine items).getD modes.multiLine
  dotAll := (flagState? .dotAll items).getD modes.dotAll
  unicode := (flagState? .unicode items).getD modes.unicode
  crlf := (flagState? .crlf items).getD modes.crlf

end CheckHarness.Pattern
