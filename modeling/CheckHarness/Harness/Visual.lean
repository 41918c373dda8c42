import CheckHarness.Harness.Check

/-!
# Visual checks and waits

A visual check asks a pixel counter once and records whether the count stays within
a limit.

A wait makes a target current and polls the screen until it shows the target.
Between two polls the harness sleeps, and the wait ends early when the sleep notices
an interrupt.  A target that is shown wins over an interrupt that is pending, which
then stays pending.  Since a screen may never show its target, a wait is given
*patience*, the greatest number of polls that is followed up.
-/

namespace CheckHarness.Harness

variable {ρ : Type} [Reporter ρ]

open CheckHarness.Action

/-! ## Visual checks -/

/-- Checks that the output differs from a reference image in no more pixels than a
limit.  The note shows the count and the limit whether or not the check holds. -/
def compareVisual (pixels : PixelCounter) (reference : String) (limit : Int32)
    (message : String) : Action ρ Outcome := do
  call (.countDiffering reference)
  let differing := pixels reference
  log .screen .debug ("TestHarness::compare_visual_state(reference=" ++ reference ++
    ", differing=" ++ shown differing ++ ", max=" ++ shown limit ++ ")")
  checkNoted (differing ≤ limit) (message ++ ". " ++ shown differing ++ " > " ++ shown limit)

/-! ## Waiting for a screen -/

/-- How a wait went on. -/
inductive Wait where
  /-- The screen showed the target after some polls that did not. -/
  | shown (polls : Nat)
  /-- A sleep after some earlier sleeps noticed an interrupt. -/
  | interrupted (polls : Nat)
  /-- Patience ran out. -/
  | waiting
deriving DecidableEq, Repr

/-- Polls a screen until it shows the target or a sleep is interrupted.  The calls
made before and the number of earlier polls are given. -/
def poll (screen : Screen) (target : String) :
    (patience polls : Nat) → (before : List Call) → Action ρ Wait
  | 0, _, _ => give .waiting
  | patience + 1, polls, before => do
    call (.isDisplayed target)
    let calls := before ++ [.isDisplayed target]
    let look := screen calls
    if look.interrupts then change fun h => { h with interrupt := h.interrupt.raise }
    if look.shown then return .shown polls
    else
      if look.wakes then change fun h => { h with interrupt := h.interrupt.raise }
      let (interrupted, flag) := (← Action.look (·.interrupt)).sleep
      change fun h => { h with interrupt := flag }
      if interrupted then return .interrupted polls
      else poll screen target patience (polls + 1) calls

/-- The note of a wait that was interrupted. -/
def interruptedNote : String := "INTERRUPTED"

/-- Makes a target current and waits until the screen shows it.  The answer is
whether it did, and nothing when patience ran out.  An interrupted wait records a
failure.  A wait that ends well records nothing. -/
def awaitVisible (patience : Nat) (screen : Screen) (target : String) :
    Action ρ (Option Bool) := do
  call (.setCurrent target)
  match ← poll screen target patience 0 [.setCurrent target] with
  | .shown polls =>
    log .screen .debug
      ("TestHarness::await_visible_state: visible after " ++ polls.repr ++ " polls")
    return some true
  | .interrupted polls =>
    log .screen .warn
      ("TestHarness::await_visible_state: interrupted after " ++ polls.repr ++ " polls")
    let _ ← failNoted interruptedNote
    return some false
  | .waiting => return none

end CheckHarness.Harness
