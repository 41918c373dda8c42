import CheckHarness.Harness.Run

/-!
# Runs at any interval

How long a harness sleeps between two polls changes nothing of what it does.  An action is
*steady* when it gives, leaves, logs and calls the same at every interval.  The actions of
the harness are made of steady parts, and one steady action after another is steady
(`Steady.bind`).  So every run is (`steady_run`).
-/

namespace CheckHarness

variable {ρ α β : Type}

/-- The harness with another interval between two polls. -/
def Harness.withInterval (h : Harness ρ) (pollMillis : Nat) : Harness ρ := { h with pollMillis }

/-- The action does the same at every interval. -/
def Steady (action : Action ρ α) : Prop :=
  ∀ h pollMillis, action.run (h.withInterval pollMillis) =
    { action.run h with harness := (action.run h).harness.withInterval pollMillis }

namespace Steady

open CheckHarness.Action

theorem pure (value : α) : Steady (Pure.pure value : Action ρ α) := fun _ _ => rfl

/-- One steady action after another. -/
theorem bind {first : Action ρ α} {next : α → Action ρ β} (steady : Steady first)
    (steadies : ∀ value, Steady (next value)) : Steady (first >>= next) := by
  intro h pollMillis
  simp only [run_bind, steady h pollMillis, steadies _ (first.run h).harness pollMillis]

theorem map {action : Action ρ α} (f : α → β) (steady : Steady action) :
    Steady (f <$> action) := by
  intro h pollMillis
  simp only [run_map, steady h pollMillis]

theorem ite {yes no : Action ρ α} (condition : Prop) [Decidable condition] (steady : Steady yes)
    (steady' : Steady no) : Steady (if condition then yes else no) := by
  by_cases holds : condition
  · rwa [if_pos holds]
  · rwa [if_neg holds]

theorem log (source : Log.Source) (level : Log.Level) (message : String) :
    Steady (Action.log source level message : Action ρ Unit) := fun _ _ => rfl

theorem call (c : Call) : Steady (Action.call c : Action ρ Unit) := fun _ _ => rfl

theorem lookInterrupt : Steady (look (·.interrupt) : Action ρ Interrupt) := fun _ _ => rfl

theorem changeInterrupt (f : Interrupt → Interrupt) :
    Steady (change fun h => { h with interrupt := f h.interrupt } : Action ρ Unit) :=
  fun _ _ => rfl

theorem tell [Reporter ρ] (event : Event) : Steady (Action.tell event : Action ρ Unit) :=
  fun _ _ => rfl

end Steady

variable [Reporter ρ]

namespace Harness

theorem steady_checkEq (operands : Operands) : Steady (checkEq operands : Action ρ Outcome) :=
  Steady.bind (fun _ _ => rfl) fun outcome =>
    .ite _ (.pure outcome) ((Steady.tell _).bind fun _ => .pure outcome)

theorem steady_todoEq (operands : Operands) : Steady (todoEq operands : Action ρ Outcome) :=
  Steady.bind (fun _ _ => rfl) fun outcome =>
    .ite _ ((Steady.tell _).bind fun _ => .pure outcome) (.pure outcome)

omit [Reporter ρ] in
theorem steady_setNote (note : String) : Steady (setNote note : Action ρ Unit) := fun _ _ => rfl

omit [Reporter ρ] in
/-- Whether a sleep between two polls is woken is up to the screen and the flag, however
long it is. -/
theorem steady_poll (screen : Screen) (target : String) (patience polls : Nat)
    (before : List Call) : Steady (poll screen target patience polls before : Action ρ Wait) := by
  induction patience generalizing polls before with
  | zero => exact .pure Wait.waiting
  | succ patience ih =>
      have raise := Steady.changeInterrupt (ρ := ρ) Interrupt.raise
      have slept := (Steady.lookInterrupt (ρ := ρ)).bind fun flag =>
        (Steady.changeInterrupt fun _ => flag.sleep.2).bind fun _ =>
          .ite (flag.sleep.1 = true) (.pure (Wait.interrupted polls))
            (ih (polls + 1) (before ++ [.isDisplayed target]))
      have hidden := Steady.ite ((screen (before ++ [.isDisplayed target])).wakes = true)
        (raise.bind fun _ => slept) slept
      have looked := Steady.ite ((screen (before ++ [.isDisplayed target])).shown = true)
        (.pure (Wait.shown polls)) hidden
      exact (Steady.call _).bind fun _ => .ite _ (raise.bind fun _ => looked) looked

theorem steady_awaitVisible (patience : Nat) (screen : Screen) (target : String) :
    Steady (awaitVisible patience screen target : Action ρ (Option Bool)) := by
  refine (Steady.call _).bind fun _ =>
    (steady_poll screen target patience 0 [.setCurrent target]).bind fun wait => ?_
  cases wait with
  | shown polls => exact (Steady.log _ _ _).bind fun _ => .pure (some true)
  | interrupted polls =>
      have failed : Steady (failNoted interruptedNote : Action ρ Outcome) := fun _ _ => rfl
      exact (Steady.log _ _ _).bind fun _ => failed.bind fun _ => .pure (some false)
  | waiting => exact .pure none

end Harness

namespace Op

open Harness

/-- Every action does the same at every interval. -/
theorem steady_perform (patience : Nat) (op : Op) :
    Steady (op.perform patience : Action ρ Answer) := by
  cases op with
  | checkEq operands => exact (steady_checkEq operands).map _
  | checkEqNoted operands note =>
      exact ((steady_setNote note).bind fun _ => steady_checkEq operands).map _
  | todo ok => exact (steady_todoEq _).map _
  | todoNoted ok note => exact ((steady_setNote note).bind fun _ => steady_todoEq _).map _
  | todoEq operands => exact (steady_todoEq operands).map _
  | todoEqNoted operands note =>
      exact ((steady_setNote note).bind fun _ => steady_todoEq operands).map _
  | awaitVisible screen target =>
      refine (steady_awaitVisible patience screen target).bind fun shown => ?_
      cases shown with
      | some shown => exact .pure (Answer.visible shown)
      | none => exact .pure Answer.waiting
  | _ => exact fun _ _ => rfl

/-- Every run does the same at every interval. -/
theorem steady_run (patience : Nat) (ops : List Op) :
    Steady (run patience ops : Action ρ (List Answer)) := by
  induction ops with
  | nil => exact .pure []
  | cons op ops ih =>
      exact (steady_perform patience op).bind fun answer =>
        .ite _ (.pure [answer]) (ih.bind fun answers => .pure (answer :: answers))

end Op

end CheckHarness
