import Mathlib.Data.List.Forall2
import CheckHarness.Proofs.Harness.Emission

/-!
# The trace of a run

The events of a run are the *blocks* of its actions, one after the other.  Which
block an action adds follows from the action, its answer and the note in force.

* An action that checks something adds the outcome it answers, under the note in
  force.  A comparison that fails and a todo that passes add one diagnostic behind it.
* A recorded outcome keeps the note it comes with.  A diagnostic stands for itself.
* An interrupted wait adds one failure.  A wait that ends well adds nothing.
* Nothing else adds anything.

The note in force is the last one set.  An action that sets a note does so before
it records.  `Follows` is what one action owes to the harness it starts from.
`perform_follows` shows that every action pays, and `events_run` is the law for
whole runs.
-/

namespace CheckHarness

/-- A new harness over an empty tally. -/
def Harness.new (pollMillis : Nat) : Harness Tally where
  reporter := {}
  pollMillis := pollMillis

namespace Op

/-! ## What an action owes -/

/-- The note an action sets, if it sets one.  A wait does when it is interrupted. -/
def newNote? : Op → Answer → Option String
  | .checkNoted _ note, _ | .checkEqNoted _ note, _ | .todoNoted _ note, _
  | .todoEqNoted _ note, _ | .passNoted note, _ | .failNoted note, _
  | .setNote note, _ | .checkpoint note, _ => some note
  | .compareVisual pixels reference limit message, _ =>
    some (message ++ ". " ++ shown (pixels reference) ++ " > " ++ shown limit)
  | .awaitVisible _ _, .visible false => some "INTERRUPTED"
  | _, _ => none

/-- The note in force while an action records. -/
def noteAfter (note : Option String) (op : Op) (answer : Answer) : Option String :=
  (op.newNote? answer).or note

/-- The outcome of an action that checks something. -/
def verdict? : Op → Option Outcome
  | .check ok | .checkNoted ok _ => some (if ok then .pass else .fail)
  | .checkEq operands | .checkEqNoted operands _ =>
    some (if operands.agree then .pass else .fail)
  | .todo ok | .todoNoted ok _ => some (if ok then .todoPass else .todoFail)
  | .todoEq operands | .todoEqNoted operands _ =>
    some (if operands.agree then .todoPass else .todoFail)
  | .pass | .passNoted _ => some .pass
  | .fail | .failNoted _ => some .fail
  | .compareVisual pixels reference limit _ =>
    some (if pixels reference ≤ limit then .pass else .fail)
  | _ => none

/-- The answers an action may give when it returns. -/
def Answers : Op → Answer → Prop
  | .awaitVisible _ _, answer => ∃ shown, answer = .visible shown
  | .sleep _, answer => ∃ interrupted, answer = .slept interrupted
  | op, answer => answer = (op.verdict?.map Answer.outcome).getD .done

/-- The diagnostic behind an outcome, if there is one. -/
def diagnostic? : Op → Outcome → Option String
  | .checkEq operands, .fail | .checkEqNoted operands _, .fail =>
    some ("got (" ++ operands.result ++ "), expected (" ++ operands.expected ++ ")")
  | .todoEq operands, .todoPass | .todoEqNoted operands _, .todoPass =>
    some ("got (" ++ operands.result ++ ")")
  | .todo _, .todoPass | .todoNoted _ _, .todoPass => some "got (true)"
  | _, _ => none

/-- The events an action adds, given the note in force and its answer. -/
def block (note : Option String) : Op → Answer → List Event
  | .debug message, _ => [.debug message]
  | .record outcome given, _ => [.outcome ⟨outcome, given⟩]
  | .awaitVisible _ _, .visible false => [.outcome ⟨.fail, note⟩]
  | op, .outcome outcome =>
    .outcome ⟨outcome, note⟩ :: (op.diagnostic? outcome).toList.map Event.debug
  | _, _ => []

/-- The blocks of a run that starts with a note. -/
def blocks (note : Option String) : List Op → List Answer → List (List Event)
  | op :: ops, answer :: answers =>
    let note := op.noteAfter note answer
    op.block note answer :: blocks note ops answers
  | _, _ => []

/-- The note in force after a run that starts with a note. -/
def lastNote (note : Option String) : List Op → List Answer → Option String
  | op :: ops, answer :: answers => lastNote (op.noteAfter note answer) ops answers
  | _, _ => note

/-! ## One action -/

/-- What an action that returns owes to the harness it starts from. -/
structure Follows (h : Harness Tally) (op : Op) (done : Done Tally Answer) : Prop where
  answers : op.Answers done.value
  note : done.harness.note = op.noteAfter h.note done.value
  events : done.harness.reporter.events =
    h.reporter.events ++ op.block done.harness.note done.value

open Harness Reporter

/-- An action that emits pays when its answer, its note and its events are right. -/
theorem Follows.of_emit {h : Harness Tally} {op : Op} {answer : Answer} {note : Option String}
    {interrupt : Interrupt} {emissions : List Emission} {calls : List Call}
    (answers : op.Answers answer) (noted : note = op.noteAfter h.note answer)
    (told : emissions.filterMap Emission.event? = op.block note answer) :
    Follows h op { ({ h with note, interrupt } : Harness Tally).emit answer emissions with
      calls } where
  answers := answers
  note := noted
  events := by simp [receive_tally, told]

/-- An action that emits nothing pays when its answer and its note are right. -/
theorem Follows.of_silent {h : Harness Tally} {op : Op} {answer : Answer} {note : Option String}
    {interrupt : Interrupt} {calls : List Call} (answers : op.Answers answer)
    (noted : note = op.noteAfter h.note answer) (silent : op.block note answer = []) :
    Follows h op { value := answer, harness := { h with note, interrupt }, calls } where
  answers := answers
  note := noted
  events := by simp [silent]

/-- Every action that returns pays what it owes. -/
theorem perform_follows (patience : Nat) (op : Op) (h : Harness Tally)
    (returns : ((op.perform patience).run h).value ≠ .waiting) :
    Follows h op ((op.perform patience).run h) := by
  cases op with
  | check ok =>
      simp only [perform, Action.run_map, run_check]
      cases ok <;> exact .of_emit rfl rfl rfl
  | checkNoted ok note =>
      simp only [perform, Action.run_map, run_checkNoted]
      cases ok <;> exact .of_emit rfl rfl rfl
  | checkEq operands =>
      simp only [perform, Action.run_map, run_checkEq]
      exact .of_emit rfl rfl (by cases operands.agree <;> rfl)
  | checkEqNoted operands note =>
      simp only [perform, Action.run_map, run_checkEqNoted, run_checkEq]
      exact .of_emit rfl rfl (by cases operands.agree <;> rfl)
  | todo ok =>
      simp only [perform, Action.run_map, run_todo, run_todoEq]
      cases ok <;> exact .of_emit rfl rfl rfl
  | todoNoted ok note =>
      simp only [perform, Action.run_map, run_todoNoted, run_todo, run_todoEq]
      cases ok <;> exact .of_emit rfl rfl rfl
  | todoEq operands =>
      simp only [perform, Action.run_map, run_todoEq]
      exact .of_emit rfl rfl (by cases operands.agree <;> rfl)
  | todoEqNoted operands note =>
      simp only [perform, Action.run_map, run_todoEqNoted, run_todoEq]
      exact .of_emit rfl rfl (by cases operands.agree <;> rfl)
  | pass =>
      simp only [perform, Action.run_map, run_pass]
      exact .of_emit rfl rfl rfl
  | passNoted note =>
      simp only [perform, Action.run_map, run_passNoted]
      exact .of_emit rfl rfl rfl
  | fail =>
      simp only [perform, Action.run_map, run_fail]
      exact .of_emit rfl rfl rfl
  | failNoted note =>
      simp only [perform, Action.run_map, run_failNoted]
      exact .of_emit rfl rfl rfl
  | setNote note =>
      simp only [perform, Action.run_bind, Action.run_pure, run_setNote]
      exact .of_emit rfl rfl rfl
  | checkpoint note =>
      simp only [perform, Action.run_bind, Action.run_pure, run_setNote]
      exact .of_emit rfl rfl rfl
  | debug message =>
      simp only [perform, Action.run_bind, Action.run_pure, run_debug]
      exact .of_emit rfl rfl rfl
  | record outcome note =>
      simp only [perform, Action.run_bind, Action.run_pure, run_recordAs]
      exact .of_emit rfl rfl rfl
  | compareVisual pixels reference limit message =>
      simp only [perform, Action.run_map, run_compareVisual]
      refine .of_emit ?_ rfl ?_
      · simp [Answers, verdict?, Outcome.ofCheck]
      · cases decide (pixels reference ≤ limit) <;> rfl
  | awaitVisible screen target =>
      obtain ⟨wait, interrupt, calls, polled⟩ :=
        run_poll screen target patience 0 [.setCurrent target] h
      simp only [perform, Action.run_bind, run_awaitVisible, polled] at returns ⊢
      cases wait with
      | shown polls => exact .of_emit ⟨true, rfl⟩ rfl rfl
      | interrupted polls => exact .of_emit ⟨false, rfl⟩ rfl rfl
      | waiting => exact absurd rfl returns
  | interrupt =>
      simp only [perform, Action.run_bind, Action.run_pure, Action.run_change]
      exact .of_silent rfl rfl rfl
  | sleep millis =>
      simp only [perform, Action.run_bind, Action.run_pure, Action.run_change, Action.run_look]
      exact .of_silent ⟨_, rfl⟩ rfl rfl

/-! ## Runs -/

section Runs

variable {ρ : Type} [Reporter ρ]

theorem run_nil (patience : Nat) (h : Harness ρ) :
    (run patience []).run h = { value := [], harness := h } := rfl

/-- A run goes on behind an action that returns. -/
theorem run_cons (patience : Nat) (op : Op) (ops : List Op) (h : Harness ρ)
    (returns : ((op.perform patience).run h).value ≠ .waiting) :
    (run patience (op :: ops)).run h =
      let one := (op.perform patience).run h
      let rest := (run patience ops).run one.harness
      { value := one.value :: rest.value, harness := rest.harness,
        log := one.log ++ rest.log, calls := one.calls ++ rest.calls } := by
  simp [run, returns]

/-- A run ends with an action that does not return. -/
theorem run_cons_waiting (patience : Nat) (op : Op) (ops : List Op) (h : Harness ρ)
    (waits : ((op.perform patience).run h).value = .waiting) :
    (run patience (op :: ops)).run h =
      { (op.perform patience).run h with value := [.waiting] } := by
  simp [run, waits]

end Runs

/-- What a run in which every action returns owes to the harness it starts from. -/
theorem run_follows (patience : Nat) (ops : List Op) (h : Harness Tally)
    (returns : .waiting ∉ ((run patience ops).run h).value) :
    let done := (run patience ops).run h
    List.Forall₂ Answers ops done.value ∧
      done.harness.note = lastNote h.note ops done.value ∧
      done.harness.reporter.events =
        h.reporter.events ++ (blocks h.note ops done.value).flatten := by
  induction ops generalizing h with
  | nil => simp [run_nil, lastNote, blocks]
  | cons op ops ih =>
      by_cases waits : ((op.perform patience).run h).value = .waiting
      · rw [run_cons_waiting patience op ops h waits] at returns
        exact absurd (List.mem_singleton_self _) returns
      · rw [run_cons patience op ops h waits] at returns ⊢
        have first := perform_follows patience op h waits
        have later := ih ((op.perform patience).run h).harness
          fun member => returns (List.mem_cons_of_mem _ member)
        obtain ⟨answers, note, events⟩ := later
        refine ⟨.cons first.answers answers, ?_, ?_⟩
        · rw [note, first.note, lastNote]
        · rw [events, first.events, first.note, blocks, List.flatten_cons, List.append_assoc]

/-- The law of the trace.  From a new harness the events are the blocks of the actions
in order, every action gives the answer it owes, and the note is the last one set. -/
theorem events_run (patience pollMillis : Nat) (ops : List Op)
    (returns : .waiting ∉ ((run patience ops).run (Harness.new pollMillis)).value) :
    let done := (run patience ops).run (Harness.new pollMillis)
    List.Forall₂ Answers ops done.value ∧
      done.harness.note = lastNote none ops done.value ∧
      done.harness.reporter.events = (blocks none ops done.value).flatten := by
  simpa [Harness.new] using run_follows patience ops (Harness.new pollMillis) returns

/-- A note that is set, a todo that passes, an interrupted wait and a mismatch under the
note of the wait. -/
theorem events_run_interrupted :
    let ops : List Op :=
      [.setNote "start", .todo true,
        .awaitVisible (fun _ => { shown := false, interrupts := true }) "main",
        .checkEq (.object (some "a") none)]
    let done := (run 1 ops).run (Harness.new 100)
    .waiting ∉ done.value ∧
      done.harness.reporter.events =
        [.outcome ⟨.todoPass, some "start"⟩, .debug "got (true)",
          .outcome ⟨.fail, some "INTERRUPTED"⟩,
          .outcome ⟨.fail, some "INTERRUPTED"⟩, .debug "got (a), expected (null)"] := by
  intro ops done
  have returns : .waiting ∉ done.value := by decide
  have law := events_run 1 100 ops returns
  exact ⟨returns, law.2.2.trans (by decide)⟩

end Op

end CheckHarness
