import CheckHarness.Harness.Action
import CheckHarness.Operands

/-!
# Checks

Every check records exactly one outcome, under the note in force.  A comparison
that fails adds the diagnostic `got (..), expected (..)` right behind its outcome.
A todo that holds adds `got (..)`.  The forms that end in `Noted` set the note first.
-/

namespace CheckHarness.Harness

variable {ρ : Type} [Reporter ρ]

open CheckHarness.Action

/-! ## Notes and diagnostics -/

/-- Replaces the note. -/
def setNote (note : String) : Action ρ Unit := change fun h => { h with note := some note }

/-- Emits a diagnostic message. -/
def debug (message : String) : Action ρ Unit := tell (.debug message)

/-- Records an outcome under a note. -/
def recordAs (outcome : Outcome) (note : Option String) : Action ρ Unit :=
  tell (.outcome ⟨outcome, note⟩)

/-- Records an outcome under the note in force. -/
def record (outcome : Outcome) : Action ρ Outcome := do
  recordAs outcome (← look (·.note))
  return outcome

/-! ## Checks -/

/-- Records whether a condition holds. -/
def check (ok : Bool) : Action ρ Outcome := record (.ofCheck ok)

/-- Sets the note and checks. -/
def checkNoted (ok : Bool) (note : String) : Action ρ Outcome := do
  setNote note
  check ok

/-- Compares two operands.  A mismatch is shown. -/
def checkEq (operands : Operands) : Action ρ Outcome := do
  let outcome ← check operands.agree
  if operands.agree then
    return outcome
  else
    debug ("got (" ++ operands.result ++ "), expected (" ++ operands.expected ++ ")")
    return outcome

/-- Sets the note and compares. -/
def checkEqNoted (operands : Operands) (note : String) : Action ρ Outcome := do
  setNote note
  checkEq operands

/-! ## Todos -/

/-- Compares two operands that are known to differ.  Agreement is shown. -/
def todoEq (operands : Operands) : Action ρ Outcome := do
  let outcome ← record (.ofTodo operands.agree)
  if operands.agree then
    debug ("got (" ++ operands.result ++ ")")
    return outcome
  else
    return outcome

/-- Sets the note and compares operands that are known to differ. -/
def todoEqNoted (operands : Operands) (note : String) : Action ρ Outcome := do
  setNote note
  todoEq operands

/-- Checks a condition that is known not to hold. -/
def todo (ok : Bool) : Action ρ Outcome := todoEq (.bool ok true)

/-- Sets the note and checks a condition that is known not to hold. -/
def todoNoted (ok : Bool) (note : String) : Action ρ Outcome := do
  setNote note
  todo ok

/-! ## Shorthands -/

/-- Records a pass. -/
def pass : Action ρ Outcome := check true

/-- Sets the note and records a pass. -/
def passNoted (note : String) : Action ρ Outcome := checkNoted true note

/-- Records a failure. -/
def fail : Action ρ Outcome := check false

/-- Logs the note, sets it and records a failure. -/
def failNoted (note : String) : Action ρ Outcome := do
  log .harness .debug ("TestHarness::fail_noted: " ++ note)
  checkNoted false note

end CheckHarness.Harness
