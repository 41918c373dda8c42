import CheckHarness.Program
import CheckHarness.Proofs.Harness.Emission

/-!
# Comparisons from the command line

A comparison reads two texts at a kind.  When both can be read, the exit code and the
printed lines follow from whether the values agree and whether the comparison is a
todo.  When one cannot be read, the program stops before it makes a harness, so it
records and prints nothing.

`invoke_compare` is the law.  It holds for all settings that can be loaded, and under
every filter of the log.
-/

namespace CheckHarness.Program

open Harness

/-! ## What a comparison should show -/

/-- The label of a comparison. -/
def verdictLabel (todo agree : Bool) : String :=
  match todo, agree with
  | false, true => "PASS"
  | false, false => "FAIL"
  | true, false => "XFAIL"
  | true, true => "XPASS"

/-- The line that explains a failure. -/
def failureLine (todo : Bool) (result expected : Value) : String :=
  "    " ++
    if todo then "got (" ++ render result ++ ")"
    else "got (" ++ render result ++ "), expected (" ++ render expected ++ ")"

/-- The run exits with 0 when agreement is not what a todo is about, else with 1.  It
prints one line for the outcome, and one more for a failure. -/
structure ShowsVerdict (output : Output) (todo : Bool) (note : Option String)
    (result expected : Value) : Prop where
  exit : output.exit = if agrees result expected ≠ todo then 0 else 1
  printed : output.printed =
    (verdictLabel todo (agrees result expected) ++ ": " ++ note.getD "") ::
      if output.exit = 1 then [failureLine todo result expected] else []
  error : output.error = []

/-- The run exits with 1, and neither prints nor logs anything. -/
structure ShowsNothing (output : Output) : Prop where
  exit : output.exit = 1
  printed : output.printed = []
  log : output.log = []

/-! ## Comparing values -/

/-- What the comparison of two values emits. -/
def comparisonEvents (todo : Bool) (note : Option String) (result expected : Value) :
    List Event :=
  let agree := agrees result expected
  .outcome ⟨if todo then .ofTodo agree else .ofCheck agree, note⟩ ::
    if agree ≠ todo then []
    else if todo then [.debug ("got (" ++ render result ++ ")")]
    else [.debug ("got (" ++ render result ++ "), expected (" ++ render expected ++ ")")]

/-- A comparison emits its events and nothing else. -/
theorem run_comparison (result expected : Value) (todo : Bool) (h : Harness Console) :
    (if todo then todoEq (.value result expected) else checkEq (.value result expected)).run h =
      h.emit (if todo then .ofTodo (agrees result expected) else .ofCheck (agrees result expected))
        ((comparisonEvents todo h.note result expected).map Emission.told) := by
  cases todo with
  | true =>
      rw [if_pos rfl, run_todoEq]
      cases agree : agrees result expected with
      | true => simp [comparisonEvents, Operands.agree, Operands.result, agree]
      | false => simp [comparisonEvents, Operands.agree, agree]
  | false =>
      rw [if_neg (by decide), run_checkEq]
      cases agree : agrees result expected with
      | true => simp [comparisonEvents, Operands.agree, agree]
      | false =>
          simp [comparisonEvents, Operands.agree, Operands.result, Operands.expected, agree]

theorem compareValues_eq (settings : Settings) (result expected : Value) (todo : Bool)
    (note : Option String) :
    compareValues settings result expected todo note =
      { printed := (comparisonEvents todo note result expected).map Event.consoleLine
        log := (comparisonEvents todo note result expected).map Event.logLine
        failures := if agrees result expected ≠ todo then 0 else 1 } := by
  simp only [compareValues, run_comparison, emit_value, emit_harness, emit_log,
    Reporter.receive_console_told, List.nil_append]
  cases todo <;> cases agrees result expected <;> rfl

/-- The console prints the events of a comparison as they should be shown. -/
theorem consoleLines_comparisonEvents (todo : Bool) (note : Option String)
    (result expected : Value) :
    (comparisonEvents todo note result expected).map Event.consoleLine =
      (verdictLabel todo (agrees result expected) ++ ": " ++ note.getD "") ::
        if agrees result expected ≠ todo then [] else [failureLine todo result expected] := by
  cases todo <;> cases agree : agrees result expected <;>
    simp [comparisonEvents, agree, Event.consoleLine, Record.text, Outcome.ofCheck,
      Outcome.ofTodo, Outcome.label, verdictLabel, failureLine]

/-- An effect with no failures exits with 0, and any other with 1. -/
theorem exit_output (filter : Log.Filter) (effect : Effect) :
    (effect.output filter).exit = if effect.failures = 0 then 0 else 1 := by
  by_cases none : effect.failures = 0
  · simp [Effect.output, none]
  · simp [Effect.output, none, Nat.pos_of_ne_zero none]

/-! ## Reading the texts -/

variable {kind : Kind} {resultText expectedText : String} {todo : Bool} {note : Option String}

theorem execute_compare_of_parse {result expected : Value}
    (first : Value.parse kind resultText = .ok result)
    (second : Value.parse kind expectedText = .ok expected) (settings : Settings) :
    execute settings (.compare kind resultText expectedText todo note) =
      .ok (compareValues settings result expected todo note) := by
  simp only [execute, compare, first, second]
  rfl

/-- A text that cannot be read stops the comparison.  The result is read first. -/
theorem execute_compare_of_error
    (unread : (∃ cause, Value.parse kind resultText = .error cause) ∨
      ∃ cause, Value.parse kind expectedText = .error cause) (settings : Settings) :
    ∃ failure, execute settings (.compare kind resultText expectedText todo note) =
      .error failure := by
  cases first : Value.parse kind resultText with
  | error cause => exact ⟨.result cause, by simp only [execute, compare, first]; rfl⟩
  | ok result =>
      cases second : Value.parse kind expectedText with
      | error cause =>
          exact ⟨.expected cause, by simp only [execute, compare, first, second]; rfl⟩
      | ok expected => simp [first, second] at unread

/-! ## Whole runs -/

/-- Once the settings are loaded, an invocation shows what its command does. -/
theorem invoke_of_loaded {lookup : String → Lookup} {invocation : Invocation}
    {settings : Settings} (loads : settingsOf lookup invocation.config = .ok settings)
    (environment : Option String) :
    ∃ filter warnings, invoke lookup environment invocation =
      { outputOf filter (execute settings invocation.command) with warnings } := by
  simp only [invoke, loads]
  exact ⟨_, _, rfl⟩

/-- The law of comparisons.  With loaded settings, texts that can be read lead to the
verdict on their values.  A text that cannot be read leads to an error, and then no
harness is made.  A command line that asks for the comparison shows the same. -/
theorem invoke_compare (lookup : String → Lookup) (environment : Option String)
    (invocation : Invocation) (settings : Settings) (kind : Kind)
    (resultText expectedText : String) (todo : Bool) (note : Option String)
    (asked : invocation.command = .compare kind resultText expectedText todo note)
    (loads : settingsOf lookup invocation.config = .ok settings) :
    let output := invoke lookup environment invocation
    (∀ result expected, Value.parse kind resultText = .ok result →
        Value.parse kind expectedText = .ok expected →
        ShowsVerdict output todo note result expected) ∧
      ((∃ cause, Value.parse kind resultText = .error cause) ∨
          (∃ cause, Value.parse kind expectedText = .error cause) →
        ShowsNothing output ∧
          ∃ failure, execute settings invocation.command = .error failure) ∧
      ∀ words, Invocation.ofWords words = .ok invocation →
        run lookup environment words = output := by
  obtain ⟨filter, warnings, shows⟩ := invoke_of_loaded loads environment
  rw [asked] at shows
  refine ⟨?_, ?_, ?_⟩
  · intro result expected first second
    rw [execute_compare_of_parse first second settings, compareValues_eq] at shows
    have exit : (invoke lookup environment invocation).exit =
        if agrees result expected ≠ todo then 0 else 1 := by
      rw [shows, outputOf, exit_output]
      by_cases failed : agrees result expected = todo <;> simp [failed]
    refine ⟨exit, ?_, by rw [shows]; rfl⟩
    rw [exit, shows]
    show List.map Event.consoleLine _ = _
    rw [consoleLines_comparisonEvents]
    by_cases failed : agrees result expected = todo <;> simp [failed]
  · intro unread
    obtain ⟨failure, stops⟩ :
        ∃ failure, execute settings (.compare kind resultText expectedText todo note) =
          .error failure :=
      execute_compare_of_error unread settings
    rw [stops] at shows
    rw [asked]
    exact ⟨⟨by rw [shows]; rfl, by rw [shows]; rfl, by rw [shows]; rfl⟩, failure, stops⟩
  · intro words parsed
    rw [run, parsed]

/-- Zeros of opposite sign do not agree, so their comparison fails and shows both. -/
theorem invoke_compare_zeros :
    let invocation : Invocation :=
      { logLevel := none, config := none,
        command := .compare .double "-0.0" "0" false (some "zeros") }
    let output := invoke (fun _ => .missing) none invocation
    settingsOf (fun _ => .missing) invocation.config = .ok {} ∧
      output.exit = 1 ∧
      output.printed = ["FAIL: zeros", "    got (-0.0), expected (0.0)"] := by
  intro invocation output
  have law := invoke_compare (fun _ => .missing) none invocation {} .double "-0.0" "0" false
    (some "zeros") rfl rfl
  have verdict := law.1 (.double (Binary.zero .double true)) (.double (Binary.zero .double false))
    rfl rfl
  have exit : output.exit = 1 := verdict.exit.trans (by decide)
  refine ⟨rfl, exit, verdict.printed.trans ?_⟩
  rw [if_pos exit]
  decide

end CheckHarness.Program
