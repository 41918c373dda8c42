import CheckHarness.Command.Reading
import CheckHarness.Log.Filter
import CheckHarness.Program.Failure
import CheckHarness.Selftest

/-!
# The program

From the words of the command line, the filter of the log in the environment, and
what paths lead to, to an exit code, the text that is printed, the lines of the log
that are let through, the warnings about the filter and the lines of an error.

The stages fail in a fixed order: the command line, the settings, the result and
the expected value of a comparison.  A command line that asks for no command exits
with 2, unless it asks for help or the version.  A stage that fails later exits
with 1 and prints and logs nothing.  A run whose checks fail exits with 1 too.

The log starts once the settings are loaded.  Its filter is the one in the
environment, else the one on the command line, else the one in the settings, else
`info`.  Only then do warnings about the filter come out.
-/

namespace CheckHarness.Program

/-! ## What a run shows -/

/-- What a run of the program shows. -/
structure Output where
  exit : Nat := 0
  /-- The lines that are printed. -/
  printed : List String := []
  /-- The lines of the log that are let through. -/
  log : List Log.Line := []
  /-- The lines of the warnings. -/
  warnings : List String := []
  /-- The lines of an error. -/
  error : List String := []
deriving DecidableEq, Repr

/-- The text of printed lines. -/
def textOf (lines : List String) : String := String.join (lines.map (· ++ "\n"))

/-- The version of the program. -/
def version : String := "0.1.0"

/-- How the program is used. -/
def usage : List String :=
  [ "Usage: testlet [--log-level LEVEL] [--config FILE] COMMAND",
    "  selftest [--filter FILTER]",
    "  compare --kind KIND [--todo] [--note NOTE] RESULT EXPECTED",
    "  help [COMMAND]" ]

/-- What a failed run shows. -/
def Failure.output (failure : Failure) : Output := { exit := 1, error := failure.lines }

/-! ## Commands -/

/-- What a command did: the lines it printed, the log, and how many checks failed. -/
structure Effect where
  printed : List String := []
  log : List Log.Line := []
  failures : Nat := 0
deriving DecidableEq, Repr

/-- The summary of a self test. -/
def summary (testlets : Nat) (tally : Tally) : String :=
  testlets.repr ++ " testlet(s), " ++ tally.total.repr ++ " check(s): " ++
    (tally.count .pass).repr ++ " passed, " ++ (tally.count .fail).repr ++ " failed, " ++
    (tally.count .todoFail).repr ++ " expected failures, " ++
    (tally.count .todoPass).repr ++ " unexpected passes"

/-- Runs the self test.  Its testlets wait for no screen, so they need no patience. -/
def selftest (settings : Settings) (filter : Option String) : Effect :=
  let testlets := Selftest.selected filter
  if testlets.isEmpty then { printed := ["No testlets matched"] }
  else
    let report := Testlet.runAll 0 settings testlets ({} : Console)
    let console := report.reporter
    { printed := ["testlet " ++ version ++ " selftest"] ++ console.lines ++
        ["", summary testlets.length console.tally]
      log := report.log
      failures := console.tally.failures }

/-- Compares two values. -/
def compareValues (settings : Settings) (result expected : Value) (todo : Bool)
    (note : Option String) : Effect :=
  let harness : Harness Console := { reporter := {}, note, pollMillis := settings.pollMillis }
  let operands := Operands.value result expected
  let done := (if todo then Harness.todoEq operands else Harness.checkEq operands).run harness
  { printed := done.harness.reporter.lines
    log := done.log
    failures := if done.value.isFailure then 1 else 0 }

/-- Reads two values of a kind and compares them. -/
def compare (settings : Settings) (kind : Kind) (result expected : String) (todo : Bool)
    (note : Option String) : Except Failure Effect := do
  let result ← (Value.parse kind result).mapError Failure.result
  let expected ← (Value.parse kind expected).mapError Failure.expected
  return compareValues settings result expected todo note

/-- Carries out a command. -/
def execute (settings : Settings) : Command → Except Failure Effect
  | .selftest filter => .ok (selftest settings filter)
  | .compare kind result expected todo note =>
    compare settings kind result expected todo note

/-! ## Runs -/

/-- The filter of the log as it is written. -/
def filterText (environment commandLine settings : Option String) : String :=
  ((environment.or commandLine).or settings).getD "info"

/-- What a command shows under a filter.  Failed checks are logged once more, as
their number. -/
def Effect.output (filter : Log.Filter) (effect : Effect) : Output :=
  let failed := 0 < effect.failures
  let last : List Log.Line :=
    if failed then [⟨.program, .error, effect.failures.repr ++ " check(s) failed"⟩] else []
  { exit := if failed then 1 else 0
    printed := effect.printed
    log := filter.select (effect.log ++ last) }

/-- What a command shows, or the failure that kept it from starting. -/
def outputOf (filter : Log.Filter) : Except Failure Effect → Output
  | .ok effect => effect.output filter
  | .error failure => failure.output

/-- The settings of an invocation. -/
def settingsOf (lookup : String → Lookup) : Option String → Except Failure Settings
  | none => .ok {}
  | some path => (Settings.load lookup path).mapError (Failure.settings path)

/-- What an invocation shows. -/
def invoke (lookup : String → Lookup) (environment : Option String) (invocation : Invocation) :
    Output :=
  match settingsOf lookup invocation.config with
  | .error failure => failure.output
  | .ok settings =>
    let read := Log.Filter.ofText
      (filterText environment invocation.logLevel settings.logLevel)
    { outputOf read.filter (execute settings invocation.command) with
      warnings := read.warnings.flatMap Log.Warning.lines }

/-- What a refused command line shows.  The refusal itself is not explained. -/
def refuse : Refusal → Output
  | .help => { printed := usage }
  | .version => { printed := ["testlet-lib " ++ version] }
  | _ => { exit := 2 }

/-- What the program shows. -/
def run (lookup : String → Lookup) (environment : Option String) (words : List String) : Output :=
  match Invocation.ofWords words with
  | .error refusal => refuse refusal
  | .ok invocation => invoke lookup environment invocation

end CheckHarness.Program
