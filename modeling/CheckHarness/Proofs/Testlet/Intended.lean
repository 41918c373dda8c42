import CheckHarness.Proofs.Harness.Trace
import CheckHarness.Testlet

/-!
# Checks that go as intended

A check is meant to hold, and a todo is meant not to.  Where that is so, the check records
an outcome that is no failure and nothing else, so a list of such checks is known by its
*records*: an outcome for each check, under the note in force.

`Op.run_of_intended` says this of lists of checks over any reporter.  On the console a
testlet whose body is such a list prints its records and logs them behind its announcement
(`Testlet.run_of_intended`), and testlets in a row do so one after the other
(`Testlet.runAll_of_intended`).
-/

namespace CheckHarness

open Reporter

namespace Op

/-- The action is a check that holds, or a todo that does not. -/
def intended : Op → Bool
  | .check ok | .checkNoted ok _ => ok
  | .checkEq operands | .checkEqNoted operands _ => operands.agree
  | .todo ok | .todoNoted ok _ => !ok
  | .todoEq operands | .todoEqNoted operands _ => !operands.agree
  | .pass | .passNoted _ => true
  | _ => false

/-- What an action that goes as intended records. -/
def recordOf (note : Option String) (op : Op) : Record :=
  ⟨op.verdict?.getD .pass, op.noteAfter note .done⟩

/-- What actions that go as intended record, from a note on. -/
def recordsOf (note : Option String) : List Op → List Record
  | [] => []
  | op :: ops => op.recordOf note :: recordsOf (op.recordOf note).note ops

/-- Nothing that goes as intended is a failure. -/
theorem outcome_recordOf {op : Op} (intended : op.intended = true) (note : Option String) :
    (op.recordOf note).outcome = .pass ∨ (op.recordOf note).outcome = .todoFail := by
  cases op <;> simp_all [Op.intended, recordOf, verdict?]

theorem outcome_of_mem_recordsOf {ops : List Op} (intended : ∀ op ∈ ops, op.intended = true)
    {note : Option String} {r : Record} (mem : r ∈ recordsOf note ops) :
    r.outcome = .pass ∨ r.outcome = .todoFail := by
  induction ops generalizing note with
  | nil => cases mem
  | cons op ops ih =>
      rcases List.mem_cons.mp mem with rfl | mem
      · exact outcome_recordOf (intended op List.mem_cons_self) note
      · exact ih (fun op mem => intended op (List.mem_cons_of_mem _ mem)) mem

section Reporters

variable {ρ : Type} [Reporter ρ]

open Harness

/-- One step: an action that goes as intended records its outcome and no more. -/
theorem perform_of_intended (patience : Nat) {op : Op} (intended : op.intended = true)
    (h : Harness ρ) :
    (op.perform patience).run h =
      ({ h with note := (op.recordOf h.note).note } : Harness ρ).emit
        (.outcome (op.recordOf h.note).outcome) [.told (.outcome (op.recordOf h.note))] := by
  cases op with
  | check ok =>
      obtain rfl : ok = true := intended
      rw [perform, Action.run_map, run_check]
      rfl
  | checkNoted ok note =>
      obtain rfl : ok = true := intended
      rw [perform, Action.run_map, run_checkNoted]
      rfl
  | checkEq operands =>
      have agree : operands.agree = true := intended
      rw [perform, Action.run_map, run_checkEq, recordOf, verdict?, agree]
      rfl
  | checkEqNoted operands note =>
      have agree : operands.agree = true := intended
      rw [perform, Action.run_map, run_checkEqNoted, run_checkEq, recordOf, verdict?, agree]
      rfl
  | todo ok =>
      obtain rfl : ok = false := Bool.not_eq_true' ok |>.mp intended
      rw [perform, Action.run_map, run_todo, run_todoEq]
      rfl
  | todoNoted ok note =>
      obtain rfl : ok = false := Bool.not_eq_true' ok |>.mp intended
      rw [perform, Action.run_map, run_todoNoted, run_todo, run_todoEq]
      rfl
  | todoEq operands =>
      have differ : operands.agree = false := Bool.not_eq_true' _ |>.mp intended
      rw [perform, Action.run_map, run_todoEq, recordOf, verdict?, differ]
      rfl
  | todoEqNoted operands note =>
      have differ : operands.agree = false := Bool.not_eq_true' _ |>.mp intended
      rw [perform, Action.run_map, run_todoEqNoted, run_todoEq, recordOf, verdict?, differ]
      rfl
  | pass =>
      rw [perform, Action.run_map, run_pass]
      rfl
  | passNoted note =>
      rw [perform, Action.run_map, run_passNoted]
      rfl
  | _ => cases intended

/-- Step by step, actions that go as intended record their outcomes and no more. -/
theorem run_of_intended (patience : Nat) {ops : List Op}
    (intended : ∀ op ∈ ops, op.intended = true) (h : Harness ρ) :
    ∃ note, (run patience ops).run h =
      ({ h with note } : Harness ρ).emit
        ((recordsOf h.note ops).map fun r => .outcome r.outcome)
        ((recordsOf h.note ops).map fun r => .told (.outcome r)) := by
  induction ops generalizing h with
  | nil => exact ⟨h.note, rfl⟩
  | cons op ops ih =>
      have step := perform_of_intended patience (intended op List.mem_cons_self) h
      have returns : ((op.perform patience).run h).value ≠ .waiting := by
        rw [step, emit_value]
        nofun
      obtain ⟨note, rest⟩ := ih (fun op mem => intended op (List.mem_cons_of_mem _ mem))
        ((op.perform patience).run h).harness
      refine ⟨note, ?_⟩
      rw [step, emit_harness] at rest
      rw [run_cons patience op ops h returns, step]
      simp only [emit_harness, rest]
      simp [emit, recordsOf]

end Reporters

end Op

namespace Testlet

/-- All that a testlet checks goes as intended. -/
def Intended (testlet : Testlet) : Prop := ∀ op ∈ testlet.body, op.intended = true

instance {testlet : Testlet} : Decidable testlet.Intended :=
  inferInstanceAs (Decidable (∀ op ∈ testlet.body, op.intended = true))

/-- What a testlet records when all goes as intended. -/
def records (testlet : Testlet) : List Record := Op.recordsOf (some testlet.name) testlet.body

/-- The line of the log that announces a testlet. -/
def announcement (testlet : Testlet) : Log.Line :=
  ⟨.testlet, .info, "Running testlet " ++ testlet.name⟩

variable (patience : Nat) (settings : Settings)

/-- On the console a testlet prints its records and logs them. -/
theorem run_of_intended {testlet : Testlet} (intended : testlet.Intended) (console : Console) :
    run patience settings testlet console =
      { reporter := ⟨console.lines ++ testlet.records.map Record.text,
          ⟨console.tally.events ++ testlet.records.map Event.outcome⟩⟩
        answers := testlet.records.map fun r => .outcome r.outcome
        log := testlet.announcement ::
          testlet.records.map fun r => (Event.outcome r).logLine } := by
  obtain ⟨note, ran⟩ :=
    Op.run_of_intended patience intended (enter testlet.name settings console).harness
  have told : testlet.records.map (fun r => Emission.told (.outcome r)) =
      (testlet.records.map Event.outcome).map Emission.told := by
    rw [List.map_map]
    rfl
  have emitted : ∃ h : Harness Console, h.reporter = console ∧
      Op.run patience testlet.body (enter testlet.name settings console).harness =
        h.emit (testlet.records.map fun r => .outcome r.outcome)
          ((testlet.records.map Event.outcome).map Emission.told) := by
    rw [← told]
    exact ⟨_, rfl, ran⟩
  obtain ⟨h, rfl, ran⟩ := emitted
  simp only [run, ran, Harness.emit, receive_console_told]
  simp only [List.map_map]
  rfl

/-- In a row they do so one after the other. -/
theorem runAll_of_intended {testlets : List Testlet}
    (intended : ∀ testlet ∈ testlets, testlet.Intended) (console : Console) :
    runAll patience settings testlets console =
      { reporter := ⟨console.lines ++ testlets.flatMap fun t => t.records.map Record.text,
          ⟨console.tally.events ++ testlets.flatMap fun t => t.records.map Event.outcome⟩⟩
        answers := testlets.map fun t => t.records.map fun r => .outcome r.outcome
        log := testlets.flatMap fun t =>
          t.announcement :: t.records.map fun r => (Event.outcome r).logLine } := by
  induction testlets generalizing console with
  | nil => simp [runAll]
  | cons testlet testlets ih =>
      have first := run_of_intended patience settings (intended testlet List.mem_cons_self) console
      have rest := ih fun t mem => intended t (List.mem_cons_of_mem _ mem)
      simp only [runAll, first, rest, List.flatMap_cons, List.map_cons, List.append_assoc]

end Testlet

end CheckHarness
