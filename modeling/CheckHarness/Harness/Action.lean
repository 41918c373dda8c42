import CheckHarness.Interrupt
import CheckHarness.Report
import CheckHarness.Screen

/-!
# The harness and its actions

A harness tells a reporter what comes of its checks.  Besides the reporter it holds
a *note*, which labels every outcome until it is replaced, the time between two
polls of a screen, and the flag of its interrupt handle.

An *action* runs on a harness.  It gives a value, the harness afterwards, the lines
it has logged and the calls it has made on collaborators, in order.  The lines of
the harness and those of its reporter go to the same log.  `run_bind` says that
what two actions log and call is put together in order.
-/

namespace CheckHarness

/-! ## Actions -/

/-- A harness that tells a reporter of type `ρ`. -/
structure Harness (ρ : Type) where
  reporter : ρ
  /-- The label of every outcome, if there is one. -/
  note : Option String := none
  /-- Milliseconds between two polls of a screen. -/
  pollMillis : Nat := 100
  interrupt : Interrupt := {}

/-- What an action leaves behind. -/
structure Done (ρ α : Type) where
  value : α
  harness : Harness ρ
  log : List Log.Line := []
  calls : List Call := []

/-- Something that runs on a harness. -/
def Action (ρ α : Type) : Type := Harness ρ → Done ρ α

namespace Action

variable {ρ α β : Type}

/-- Runs an action on a harness. -/
def run (action : Action ρ α) (h : Harness ρ) : Done ρ α := action h

/-- Gives a value and does nothing. -/
def give (value : α) : Action ρ α := fun h => { value, harness := h }

/-- One action after the other.  What they log and call is put together in order. -/
def andThen (first : Action ρ α) (next : α → Action ρ β) : Action ρ β := fun h =>
  let one := first h
  let two := next one.value one.harness
  { two with log := one.log ++ two.log, calls := one.calls ++ two.calls }

instance : Monad (Action ρ) where
  pure := give
  bind := andThen

/-- Changes the harness. -/
def change (f : Harness ρ → Harness ρ) : Action ρ Unit := fun h => { value := (), harness := f h }

/-- Looks at the harness. -/
def look (f : Harness ρ → α) : Action ρ α := fun h => { value := f h, harness := h }

/-- Writes a line to the log. -/
def log (source : Log.Source) (level : Log.Level) (message : String) : Action ρ Unit := fun h =>
  { value := (), harness := h, log := [⟨source, level, message⟩] }

/-- Makes a call on a collaborator. -/
def call (c : Call) : Action ρ Unit := fun h => { value := (), harness := h, calls := [c] }

/-- Tells the reporter an event. -/
def tell [Reporter ρ] (event : Event) : Action ρ Unit := fun h =>
  let (reporter, lines) := Reporter.report h.reporter event
  { value := (), harness := { h with reporter }, log := lines }

/-! ## Running actions -/

@[simp] theorem run_pure (value : α) (h : Harness ρ) :
    (pure value : Action ρ α).run h = { value, harness := h } := rfl

@[simp] theorem run_bind (first : Action ρ α) (next : α → Action ρ β) (h : Harness ρ) :
    (first >>= next).run h =
      let one := first.run h
      let two := (next one.value).run one.harness
      { two with log := one.log ++ two.log, calls := one.calls ++ two.calls } := rfl

@[simp] theorem run_map (f : α → β) (action : Action ρ α) (h : Harness ρ) :
    (f <$> action).run h =
      { action.run h with value := f (action.run h).value } := by
  show (action >>= fun value => pure (f value)).run h = _
  simp

@[simp] theorem run_change (f : Harness ρ → Harness ρ) (h : Harness ρ) :
    (change f).run h = { value := (), harness := f h } := rfl

@[simp] theorem run_look (f : Harness ρ → α) (h : Harness ρ) :
    (look f).run h = { value := f h, harness := h } := rfl

@[simp] theorem run_log (source : Log.Source) (level : Log.Level) (message : String)
    (h : Harness ρ) :
    (log source level message).run h =
      { value := (), harness := h, log := [⟨source, level, message⟩] } := rfl

@[simp] theorem run_call (c : Call) (h : Harness ρ) :
    (call c).run h = { value := (), harness := h, calls := [c] } := rfl

@[simp] theorem run_tell [Reporter ρ] (event : Event) (h : Harness ρ) :
    (tell event).run h =
      { value := (), harness := { h with reporter := (Reporter.report h.reporter event).1 },
        log := (Reporter.report h.reporter event).2 } := rfl

end Action

end CheckHarness
