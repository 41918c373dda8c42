/-!
# Screens and pixel counters

The harness neither draws nor captures anything.  It has two collaborators.  A
*pixel counter* says by how many pixels the output differs from a reference image.
A *screen* can be told which target to show, and can be asked whether it shows it.

A screen may have any inner state.  All that shows of it is what it answers, and
that depends on the calls made so far.  So a screen here is a function from the
calls made so far to what the last of them meets.  While a poll runs, or in the
sleep after it, someone may also interrupt the harness, which is part of what the
poll meets.
-/

namespace CheckHarness

/-! ## Collaborators -/

/-- A call the harness makes on a collaborator. -/
inductive Call where
  /-- Asks a pixel counter for the difference from a reference image. -/
  | countDiffering (reference : String)
  /-- Tells a screen which target to show. -/
  | setCurrent (target : String)
  /-- Asks a screen whether it shows a target. -/
  | isDisplayed (target : String)
deriving DecidableEq, Repr

/-- Counts the pixels that differ from a reference image. -/
abbrev PixelCounter := String → Int32

/-- What a poll of a screen meets. -/
structure Look where
  /-- The screen shows the target. -/
  shown : Bool
  /-- An interrupt arrives by the end of the poll. -/
  interrupts : Bool := false
  /-- An interrupt arrives in the sleep that follows, if there is one. -/
  wakes : Bool := false
deriving DecidableEq, Repr

/-- What a poll meets after the calls made so far, the poll itself included. -/
abbrev Screen := List Call → Look

/-! ## Scripted screens -/

/-- A screen that follows a script.  It becomes ready after some polls.  From then
on it shows what was made current, unless it ignores requests. -/
structure Script where
  /-- How many polls find it not ready. -/
  delay : Nat := 0
  /-- The target that is current to begin with. -/
  current : Option String := none
  /-- Whether requests leave the current target as it is. -/
  ignoresRequests : Bool := false
  /-- The number of a poll that interrupts the harness, counted from one. -/
  interruptsOn : Nat := 0
  /-- The number of a poll after which the sleep is interrupted, counted from one. -/
  wakesAfter : Nat := 0
deriving DecidableEq, Repr

namespace Script

/-- The targets a screen was told to show. -/
def requested (calls : List Call) : List String :=
  calls.filterMap fun
    | .setCurrent target => some target
    | _ => none

/-- The targets a screen was asked about. -/
def asked (calls : List Call) : List String :=
  calls.filterMap fun
    | .isDisplayed target => some target
    | _ => none

/-- The current target after some calls. -/
def currentAfter (script : Script) (calls : List Call) : Option String :=
  if script.ignoresRequests then script.current
  else (requested calls).getLast?.or script.current

/-- The screen that follows the script. -/
def screen (script : Script) : Screen := fun calls =>
  let polls := (asked calls).length
  { shown := script.delay < polls &&
      (script.currentAfter calls).isSome && script.currentAfter calls == (asked calls).getLast?
    interrupts := polls == script.interruptsOn
    wakes := polls == script.wakesAfter }

/-- A number of polls that is enough for any wait that ends at all. -/
def patience (script : Script) : Nat :=
  script.delay + script.interruptsOn + script.wakesAfter + 2

end Script

end CheckHarness
