import CheckHarness.Proofs.Program.Comparison
import CheckHarness.Proofs.Settings.Loading
import CheckHarness.Proofs.Value.Reading

/-!
# The first failure wins

Several things can be wrong with one run: its settings may not load, and either text of a
comparison may not be readable.  `Present` says what is wrong, each thing for itself.  The
run stops for the failure of the earliest stage, whatever else is wrong
(`attempt_eq_error_iff`).  A command line that is refused comes before all of them.

A run that stops exits with 1 and shows its one failure.  It prints and logs nothing.
`run_precedence` is the law.
-/

namespace CheckHarness.Program

open Settings (Unloadable)

/-! ## What is wrong with a run -/

/-- When a failure shows: first that of the settings, then those of the two operands. -/
def Failure.stage : Failure → Nat
  | .settings _ _ => 0
  | .result _ => 1
  | .expected _ => 2

/-- Something is wrong with an invocation, whatever else is. -/
inductive Present (lookup : String → Lookup) (invocation : Invocation) : Failure → Prop where
  | settings {path : String} {cause : SettingsError} (given : invocation.config = some path)
      (unloadable : Unloadable path (lookup path) cause) :
      Present lookup invocation (.settings path cause)
  | result {kind : Kind} {result expected : String} {todo : Bool} {note : Option String}
      (asked : invocation.command = .compare kind result expected todo note)
      (unread : ∀ value, Value.parse kind result ≠ .ok value) :
      Present lookup invocation (.result ⟨kind, result⟩)
  | expected {kind : Kind} {result expected : String} {todo : Bool} {note : Option String}
      (asked : invocation.command = .compare kind result expected todo note)
      (unread : ∀ value, Value.parse kind expected ≠ .ok value) :
      Present lookup invocation (.expected ⟨kind, expected⟩)

/-- Of all that is wrong, the failure shows first. -/
structure First (lookup : String → Lookup) (invocation : Invocation) (failure : Failure) :
    Prop where
  present : Present lookup invocation failure
  least : ∀ other, Present lookup invocation other → failure.stage ≤ other.stage

/-- What an invocation does once its command line is read. -/
def attempt (lookup : String → Lookup) (invocation : Invocation) : Except Failure Effect := do
  let settings ← settingsOf lookup invocation.config
  execute settings invocation.command

/-- The run exits with 1, prints and logs nothing, and shows an error with its causes. -/
structure Stops (output : Output) (context : String) (causes : List String) : Prop
    extends ShowsNothing output where
  error : output.error = ["Error: " ++ context, "", "Caused by:"] ++ Failure.causeLines causes

/-! ## One stage after the other -/

section Stages

variable {lookup : String → Lookup} {invocation : Invocation} {failure other : Failure}

theorem settingsOf_eq_error {config : Option String}
    (fails : settingsOf lookup config = .error failure) :
    ∃ path cause, config = some path ∧ Unloadable path (lookup path) cause ∧
      failure = .settings path cause := by
  cases config with
  | none => cases fails
  | some path =>
      cases loads : Settings.load lookup path with
      | ok settings => rw [settingsOf, loads] at fails; cases fails
      | error cause =>
          rw [settingsOf, loads] at fails
          cases fails
          exact ⟨path, cause, rfl, Settings.load_eq_error_iff.mp loads, rfl⟩

theorem settingsOf_of_unloadable {path : String} {cause : SettingsError}
    (unloadable : Unloadable path (lookup path) cause) :
    settingsOf lookup (some path) = .error (.settings path cause) := by
  rw [settingsOf, Settings.load_of_unloadable unloadable]
  rfl

section Compare

variable {kind : Kind} {resultText expectedText : String} {todo : Bool} {note : Option String}
  (settings : Settings)

theorem execute_of_result (unread : ∀ value, Value.parse kind resultText ≠ .ok value) :
    execute settings (.compare kind resultText expectedText todo note) =
      .error (.result ⟨kind, resultText⟩) := by
  rw [execute, compare, Value.parse_eq_error unread]
  rfl

theorem execute_of_expected {result : Value} (reads : Value.parse kind resultText = .ok result)
    (unread : ∀ value, Value.parse kind expectedText ≠ .ok value) :
    execute settings (.compare kind resultText expectedText todo note) =
      .error (.expected ⟨kind, expectedText⟩) := by
  rw [execute, compare, reads, Value.parse_eq_error unread]
  rfl

end Compare

/-! ## All stages -/

/-- At each stage at most one thing is wrong. -/
theorem Present.eq_of_stage (present : Present lookup invocation failure)
    (present' : Present lookup invocation other) (same : failure.stage = other.stage) :
    failure = other := by
  cases present with
  | settings given unloadable =>
      cases present' with
      | settings given' unloadable' =>
          cases given.symm.trans given'
          cases (Settings.load_of_unloadable unloadable).symm.trans
            (Settings.load_of_unloadable unloadable')
          rfl
      | _ => cases same
  | result asked unread =>
      cases present' with
      | result asked' unread' =>
          cases asked.symm.trans asked'
          rfl
      | _ => cases same
  | expected asked unread =>
      cases present' with
      | expected asked' unread' =>
          cases asked.symm.trans asked'
          rfl
      | _ => cases same

theorem First.unique (first : First lookup invocation failure)
    (first' : First lookup invocation other) : failure = other :=
  first.present.eq_of_stage first'.present
    (Nat.le_antisymm (first.least _ first'.present) (first'.least _ first.present))

/-- Settings that load are not wrong. -/
theorem not_present_settings {settings : Settings}
    (loads : settingsOf lookup invocation.config = .ok settings) {path : String}
    {cause : SettingsError} : ¬Present lookup invocation (.settings path cause) := by
  rintro (⟨given, unloadable⟩ | _ | _)
  rw [given, settingsOf_of_unloadable unloadable] at loads
  cases loads

/-- With settings that load, a comparison fails for its first text that cannot be read. -/
theorem execute_compare_cases {settings : Settings} {kind : Kind}
    {resultText expectedText : String} {todo : Bool} {note : Option String}
    (loads : settingsOf lookup invocation.config = .ok settings)
    (asked : invocation.command = .compare kind resultText expectedText todo note) :
    (∃ failure, execute settings invocation.command = .error failure ∧
        First lookup invocation failure) ∨
      (∃ effect, execute settings invocation.command = .ok effect) ∧
        ∀ failure, ¬Present lookup invocation failure := by
  have sound {path : String} {cause : SettingsError} :
      ¬Present lookup invocation (.settings path cause) := not_present_settings loads
  by_cases read : ∃ result, Value.parse kind resultText = .ok result
  · obtain ⟨result, read⟩ := read
    by_cases read' : ∃ expected, Value.parse kind expectedText = .ok expected
    · obtain ⟨expected, read'⟩ := read'
      refine Or.inr ⟨⟨_, by rw [asked, execute_compare_of_parse read read']⟩, ?_⟩
      intro failure present
      cases present with
      | settings given unloadable => exact sound (.settings given unloadable)
      | result asked' unread =>
          cases asked.symm.trans asked'
          exact unread result read
      | expected asked' unread =>
          cases asked.symm.trans asked'
          exact unread expected read'
    · have unread' := not_exists.mp read'
      refine Or.inl ⟨_, by rw [asked, execute_of_expected settings read unread'],
        .expected asked unread', ?_⟩
      intro other present
      cases present with
      | settings given unloadable => exact absurd (.settings given unloadable) sound
      | result asked' unread =>
          cases asked.symm.trans asked'
          exact absurd read (unread result)
      | expected => exact Nat.le_refl _
  · have unread := not_exists.mp read
    refine Or.inl ⟨_, by rw [asked, execute_of_result settings unread],
      .result asked unread, ?_⟩
    intro other present
    cases present with
    | settings given unloadable => exact absurd (.settings given unloadable) sound
    | result => exact Nat.le_refl _
    | expected => exact Nat.le_succ 1

/-- An attempt fails for what is wrong first, and succeeds when nothing is wrong. -/
theorem attempt_cases (lookup : String → Lookup) (invocation : Invocation) :
    (∃ failure, attempt lookup invocation = .error failure ∧ First lookup invocation failure) ∨
      (∃ effect, attempt lookup invocation = .ok effect) ∧
        ∀ failure, ¬Present lookup invocation failure := by
  cases loads : settingsOf lookup invocation.config with
  | error failure =>
      obtain ⟨path, cause, given, unloadable, rfl⟩ := settingsOf_eq_error loads
      refine Or.inl ⟨_, ?_, .settings given unloadable, fun other _ => Nat.zero_le _⟩
      rw [attempt, loads]
      rfl
  | ok settings =>
      have executes : attempt lookup invocation = execute settings invocation.command := by
        rw [attempt, loads]
        rfl
      rw [executes]
      cases asked : invocation.command with
      | selftest filter =>
          refine Or.inr ⟨⟨_, rfl⟩, fun failure present => ?_⟩
          cases present with
          | settings given unloadable =>
              exact not_present_settings loads (.settings given unloadable)
          | result asked' unread => cases asked.symm.trans asked'
          | expected asked' unread => cases asked.symm.trans asked'
      | compare => exact asked ▸ execute_compare_cases loads asked

theorem attempt_eq_error_iff :
    attempt lookup invocation = .error failure ↔ First lookup invocation failure := by
  rcases attempt_cases lookup invocation with ⟨earliest, fails, first⟩ | ⟨⟨effect, succeeds⟩, sound⟩
  · rw [fails, Except.error.injEq]
    exact ⟨fun same => same ▸ first, fun first' => first.unique first'⟩
  · rw [succeeds]
    refine ⟨fun fails => ?_, fun first => absurd first.present (sound failure)⟩
    cases fails

end Stages

/-! ## What a run shows -/

section Shown

variable {lookup : String → Lookup} {invocation : Invocation} {failure : Failure} {effect : Effect}

/-- An attempt that fails is shown as its failure. -/
theorem stops_of_attempt (environment : Option String)
    (fails : attempt lookup invocation = .error failure) :
    Stops (invoke lookup environment invocation) failure.context failure.causes := by
  cases loads : settingsOf lookup invocation.config with
  | error cause =>
      rw [attempt, loads] at fails
      cases fails
      rw [invoke, loads]
      exact ⟨⟨rfl, rfl, rfl⟩, rfl⟩
  | ok settings =>
      rw [attempt, loads] at fails
      obtain ⟨filter, warnings, shows⟩ := invoke_of_loaded loads environment
      rw [shows, show execute settings invocation.command = .error failure from fails]
      exact ⟨⟨rfl, rfl, rfl⟩, rfl⟩

end Shown

end CheckHarness.Program
