import CheckHarness.Harness.Visual

/-!
# Runs

`Op` names the actions of a harness, so that a run is a list of names.
`Op.perform` carries one out, and `Op.run` a list of them.
-/

namespace CheckHarness

/-! ## Actions by name -/

/-- The actions of a harness. -/
inductive Op where
  | check (ok : Bool)
  | checkNoted (ok : Bool) (note : String)
  | checkEq (operands : Operands)
  | checkEqNoted (operands : Operands) (note : String)
  | todo (ok : Bool)
  | todoNoted (ok : Bool) (note : String)
  | todoEq (operands : Operands)
  | todoEqNoted (operands : Operands) (note : String)
  | pass
  | passNoted (note : String)
  | fail
  | failNoted (note : String)
  | setNote (note : String)
  /-- Another word for setting the note. -/
  | checkpoint (note : String)
  | debug (message : String)
  /-- Records an outcome with the reporter, past the note of the harness. -/
  | record (outcome : Outcome) (note : Option String)
  | compareVisual (pixels : PixelCounter) (reference : String) (limit : Int32) (message : String)
  | awaitVisible (screen : Screen) (target : String)
  /-- Interrupts the harness. -/
  | interrupt
  /-- Sleeps on the handle of the harness. -/
  | sleep (millis : Nat)

/-- What an action answers. -/
inductive Answer where
  | outcome (outcome : Outcome)
  | done
  /-- Whether the awaited target was shown. -/
  | visible (shown : Bool)
  /-- Patience with a screen ran out. -/
  | waiting
  /-- Whether a sleep was interrupted. -/
  | slept (interrupted : Bool)
deriving DecidableEq, Repr

namespace Op

variable {ρ : Type} [Reporter ρ]

/-- Carries an action out. -/
def perform (patience : Nat) : Op → Action ρ Answer
  | .check ok => .outcome <$> Harness.check ok
  | .checkNoted ok note => .outcome <$> Harness.checkNoted ok note
  | .checkEq operands => .outcome <$> Harness.checkEq operands
  | .checkEqNoted operands note => .outcome <$> Harness.checkEqNoted operands note
  | .todo ok => .outcome <$> Harness.todo ok
  | .todoNoted ok note => .outcome <$> Harness.todoNoted ok note
  | .todoEq operands => .outcome <$> Harness.todoEq operands
  | .todoEqNoted operands note => .outcome <$> Harness.todoEqNoted operands note
  | .pass => .outcome <$> Harness.pass
  | .passNoted note => .outcome <$> Harness.passNoted note
  | .fail => .outcome <$> Harness.fail
  | .failNoted note => .outcome <$> Harness.failNoted note
  | .setNote note => do
    Harness.setNote note
    return .done
  | .checkpoint note => do
    Harness.setNote note
    return .done
  | .debug message => do
    Harness.debug message
    return .done
  | .record outcome note => do
    Harness.recordAs outcome note
    return .done
  | .compareVisual pixels reference limit message =>
    .outcome <$> Harness.compareVisual pixels reference limit message
  | .awaitVisible screen target => do
    match ← Harness.awaitVisible patience screen target with
    | some shown => return .visible shown
    | none => return .waiting
  | .interrupt => do
    Action.change fun h => { h with interrupt := h.interrupt.raise }
    return .done
  | .sleep _ => do
    let (interrupted, flag) := (← Action.look (·.interrupt)).sleep
    Action.change fun h => { h with interrupt := flag }
    return .slept interrupted

/-- Carries out a list of actions.  It ends early when patience runs out. -/
def run (patience : Nat) : List Op → Action ρ (List Answer)
  | [] => return []
  | op :: ops => do
    let answer ← op.perform patience
    if answer = .waiting then return [answer]
    else return answer :: (← run patience ops)

end Op

end CheckHarness
