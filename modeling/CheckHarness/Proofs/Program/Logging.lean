import CheckHarness.Proofs.Harness.Interval
import CheckHarness.Proofs.Log.Word
import CheckHarness.Proofs.Program.Comparison
import CheckHarness.Proofs.Settings.Loading

/-!
# Logging changes no result

A command does the same under all settings.  The interval between polls changes nothing of
what a run does, and the word for the log is only read where the log starts.  So what a
command prints, its exit code and its error are the same in every `Launch`, and so is what
it emits for the log.

Of what is emitted, the log shows the lines whose level passes one threshold.  The word for
the threshold is looked for in the environment, then on the command line, then in the
settings, and is `info` when it is in none of them.  `shown_launch` is the law.  It says
too that a threshold that admits more only adds lines.
-/

namespace CheckHarness

/-! ## Settings of a run -/

namespace Testlet

variable {ρ : Type} [Reporter ρ] (patience : Nat) (settings settings' : Settings)

/-- A testlet does the same under all settings. -/
theorem run_settings (testlet : Testlet) (reporter : ρ) :
    run patience settings testlet reporter = run patience settings' testlet reporter := by
  have same : Op.run patience testlet.body (enter testlet.name settings' reporter).harness = _ :=
    Op.steady_run patience testlet.body (enter testlet.name settings reporter).harness
      settings'.pollMillis
  simp only [run]
  rw [same]
  rfl

theorem runAll_settings (testlets : List Testlet) (reporter : ρ) :
    runAll patience settings testlets reporter = runAll patience settings' testlets reporter := by
  induction testlets generalizing reporter with
  | nil => rfl
  | cons testlet testlets ih =>
      rw [runAll, runAll, run_settings patience settings settings' testlet, ih]

end Testlet

namespace Program

/-- A command does the same under all settings. -/
theorem execute_settings (settings settings' : Settings) (command : Command) :
    execute settings command = execute settings' command := by
  cases command with
  | selftest filter =>
      rw [execute, execute, selftest, selftest, Testlet.runAll_settings 0 settings settings']
  | compare kind result expected todo note =>
      have compares : compareValues settings = compareValues settings' := by
        funext result expected todo note
        rw [compareValues_eq, compareValues_eq]
      simp only [execute, compare, compares]

/-! ## Launches -/

/-- Settings load from a file with a document that makes them. -/
theorem settingsOf_of_ofDocument {lookup : String → Lookup} {path document : String}
    {settings : Settings} (found : lookup path = .file (Settings.bytesOf document))
    (makes : Settings.ofDocument document = .ok settings) :
    settingsOf lookup (some path) = .ok settings := by
  rw [settingsOf, Settings.load_of_file found, makes]
  rfl

/-- A way to run a command, with settings that load. -/
structure Launch (command : Command) where
  lookup : String → Lookup
  /-- The word for the log in the environment. -/
  environment : Option String
  /-- The word for the log on the command line. -/
  logLevel : Option String
  /-- The path of a settings file. -/
  config : Option String
  settings : Settings
  loads : settingsOf lookup config = .ok settings

namespace Launch

variable {command : Command}

/-- What the command line asks for. -/
def invocation (launch : Launch command) : Invocation :=
  { logLevel := launch.logLevel, config := launch.config, command }

/-- What the program shows. -/
def shown (launch : Launch command) : Output :=
  invoke launch.lookup launch.environment launch.invocation

/-- The word for the log. -/
def word (launch : Launch command) : String :=
  match launch.environment, launch.logLevel, launch.settings.logLevel with
  | some word, _, _ => word
  | none, some word, _ => word
  | none, none, some word => word
  | none, none, none => "info"

/-- The threshold of the log. -/
def threshold (launch : Launch command) : Log.Threshold := Log.thresholdOf launch.word

theorem filterText_eq (launch : Launch command) :
    filterText launch.environment launch.logLevel launch.settings.logLevel = launch.word := by
  unfold word filterText
  cases launch.environment <;> cases launch.logLevel <;> cases launch.settings.logLevel <;> rfl

end Launch

/-! ## What is emitted for the log -/

/-- All that a command emits for the log, the number of failed checks last. -/
def emitted (command : Command) : List Log.Line :=
  match execute {} command with
  | .error _ => []
  | .ok effect =>
    effect.log ++
      if 0 < effect.failures then
        [⟨.program, .error, effect.failures.repr ++ " check(s) failed"⟩]
      else []

theorem emitted_compare {kind : Kind} {resultText expectedText : String} {result expected : Value}
    (first : Value.parse kind resultText = .ok result)
    (second : Value.parse kind expectedText = .ok expected) (todo : Bool) (note : Option String) :
    emitted (.compare kind resultText expectedText todo note) =
      (comparisonEvents todo note result expected).map Event.logLine ++
        if agrees result expected ≠ todo then []
        else [⟨.program, .error, "1 check(s) failed"⟩] := by
  rw [emitted, execute_compare_of_parse first second, compareValues_eq]
  by_cases failed : agrees result expected = todo
  · simp only [failed, ne_eq, not_true_eq_false, if_false, Nat.one_pos, if_true]
    rfl
  · simp only [failed, ne_eq, not_false_eq_true, if_true, Nat.lt_irrefl, if_false]

theorem emitted_one_two :
    emitted (.compare .int "1" "2" false none) =
      [⟨.reporter, .warn, "FAIL: "⟩, ⟨.reporter, .debug, "got (1), expected (2)"⟩,
        ⟨.program, .error, "1 check(s) failed"⟩] := by
  have first : Value.parse .int "1" = .ok (.int 1) := rfl
  have second : Value.parse .int "2" = .ok (.int 2) := rfl
  rw [emitted_compare first second]
  decide

namespace Launch

variable {command : Command}

theorem shown_eq (launch : Launch command) :
    let read := Log.Filter.ofText launch.word
    launch.shown =
      { outputOf read.filter (execute {} command) with
        warnings := read.warnings.flatMap Log.Warning.lines } := by
  simp only [shown, invocation, invoke, launch.loads, launch.filterText_eq,
    execute_settings launch.settings {}]

/-- The log is what the filter selects of all that is emitted. -/
theorem log_shown (launch : Launch command) :
    launch.shown.log = (Log.Filter.ofText launch.word).filter.select (emitted command) := by
  rw [shown_eq, emitted]
  cases execute {} command <;> rfl

theorem log_shown_of_word (launch : Launch command) (letters : Log.IsWord launch.word) :
    launch.shown.log = (emitted command).filter fun line => launch.threshold.admits line.level := by
  rw [log_shown, Log.Filter.select, funext (Log.ofText_word letters).2]
  rfl

/-- Apart from the log, a command shows the same in every launch. -/
theorem results_eq (one two : Launch command) :
    one.shown.exit = two.shown.exit ∧ one.shown.printed = two.shown.printed ∧
      one.shown.error = two.shown.error := by
  rw [shown_eq, shown_eq]
  cases execute {} command <;> exact ⟨rfl, rfl, rfl⟩

/-- The law of logging.  The results of a command are the same in every launch.  When the
word for the log has only letters, or is empty, the log is what the threshold admits of
what the command emits, in order.  A launch whose threshold admits more shows more. -/
theorem shown_launch (one two : Launch command) :
    (one.shown.exit = two.shown.exit ∧ one.shown.printed = two.shown.printed ∧
        one.shown.error = two.shown.error) ∧
      (Log.IsWord one.word →
        one.shown.warnings = [] ∧
          one.shown.log =
            (emitted command).filter fun line => one.threshold.admits line.level) ∧
      (Log.IsWord one.word → Log.IsWord two.word →
        (∀ level, one.threshold.admits level → two.threshold.admits level) →
        one.shown.log.Sublist two.shown.log) ∧
      ∀ words, Invocation.ofWords words = .ok one.invocation →
        run one.lookup one.environment words = one.shown := by
  refine ⟨results_eq one two, ?_, ?_, ?_⟩
  · intro letters
    refine ⟨?_, log_shown_of_word one letters⟩
    rw [shown_eq]
    simp only [(Log.ofText_word letters).1, List.flatMap_nil]
  · intro letters letters' more
    rw [log_shown_of_word one letters, log_shown_of_word two letters']
    exact List.monotone_filter_right _ fun line => more line.level
  · intro words parsed
    rw [run, parsed]
    rfl

/-- A word in the environment goes before one on the command line.  The word in a settings
file counts when there is neither. -/
theorem shown_launch_precedence :
    let command : Command := .compare .int "1" "2" false none
    let document := "log_level = 'debug'\npoll_interval_ms = 7"
    let one : Launch command :=
      { lookup := fun _ => .missing, environment := some "Warn", logLevel := some "trace",
        config := none, settings := {}, loads := rfl }
    let two : Launch command :=
      { lookup := fun _ => .file (Settings.bytesOf document), environment := none,
        logLevel := none, config := some "settings",
        settings := { pollMillis := 7, logLevel := some "debug" },
        loads := settingsOf_of_ofDocument rfl (by decide) }
    (Log.IsWord one.word ∧ Log.IsWord two.word ∧
        ∀ level, one.threshold.admits level → two.threshold.admits level) ∧
      one.shown.log =
        [⟨.reporter, .warn, "FAIL: "⟩, ⟨.program, .error, "1 check(s) failed"⟩] ∧
      one.shown.log.Sublist two.shown.log ∧ one.shown.printed = two.shown.printed := by
  intro command document one two
  have letters : Log.IsWord one.word :=
    List.all_eq_true.mp (by decide +kernel : "Warn".toList.all isAlphabetic = true)
  have letters' : Log.IsWord two.word :=
    List.all_eq_true.mp (by decide +kernel : "debug".toList.all isAlphabetic = true)
  have more : ∀ level, one.threshold.admits level → two.threshold.admits level := by
    intro level
    cases level <;> decide
  obtain ⟨⟨-, printed, -⟩, shows, adds, -⟩ := shown_launch one two
  refine ⟨⟨letters, letters', more⟩, (shows letters).2.trans ?_, adds letters letters' more,
    printed⟩
  rw [emitted_one_two]
  decide

/-- The names of all parts of the program start with `testlet`.  As a word for the log it
lets everything through, although it names no level. -/
theorem log_shown_testlet :
    let launch : Launch (.compare .int "1" "2" false none) :=
      { lookup := fun _ => .missing, environment := some "testlet", logLevel := none,
        config := none, settings := {}, loads := rfl }
    Log.IsWord launch.word ∧ launch.word ≠ "" ∧
      (∀ level : Log.Level, level.name.toList ≠ launch.word.toList.map Char.toUpper) ∧
      launch.shown.log =
        [⟨.reporter, .warn, "FAIL: "⟩, ⟨.reporter, .debug, "got (1), expected (2)"⟩,
          ⟨.program, .error, "1 check(s) failed"⟩] := by
  intro launch
  have letters : Log.IsWord launch.word :=
    List.all_eq_true.mp (by decide +kernel : "testlet".toList.all isAlphabetic = true)
  refine ⟨letters, by decide, fun level => by cases level <;> decide, ?_⟩
  rw [log_shown_of_word launch letters, emitted_one_two]
  decide

end Launch

end Program

end CheckHarness
