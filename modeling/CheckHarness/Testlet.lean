import CheckHarness.Harness.Run
import CheckHarness.Settings
import CheckHarness.Text.Quoted

/-!
# Testlets

A testlet is a named list of actions.  It runs on a harness of its own, whose note
is the testlet's name to begin with.  Only the reporter goes from one testlet to
the next, so no note and no interrupt does.
-/

namespace CheckHarness

/-- A named list of actions. -/
structure Testlet where
  name : String
  body : List Op

namespace Testlet

variable {ρ : Type} [Reporter ρ]

/-- The start of a testlet: the announcement, and a new harness noted with its name. -/
def enter (name : String) (settings : Settings) (reporter : ρ) : Done ρ Unit where
  value := ()
  harness := { reporter, note := some name, pollMillis := settings.pollMillis }
  log := [⟨.testlet, .info, "Running testlet " ++ name⟩]

/-- What is left behind: the reporter, the answers of the actions and the log. -/
structure Report (ρ α : Type) where
  reporter : ρ
  answers : α
  log : List Log.Line

/-- Runs a testlet. -/
def run (patience : Nat) (settings : Settings) (testlet : Testlet) (reporter : ρ) :
    Report ρ (List Answer) :=
  let entered := enter testlet.name settings reporter
  let done := Op.run patience testlet.body entered.harness
  { reporter := done.harness.reporter, answers := done.value, log := entered.log ++ done.log }

/-- Runs testlets one after the other, with the answers of each. -/
def runAll (patience : Nat) (settings : Settings) :
    List Testlet → ρ → Report ρ (List (List Answer))
  | [], reporter => { reporter, answers := [], log := [] }
  | testlet :: testlets, reporter =>
    let first := run patience settings testlet reporter
    let rest := runAll patience settings testlets first.reporter
    { rest with answers := first.answers :: rest.answers, log := first.log ++ rest.log }

/-- How a testlet is shown: by its name only. -/
def shown (testlet : Testlet) : String :=
  "FnTestlet \x7b name: " ++ Quoted.quote testlet.name ++ " \x7d"

end Testlet

end CheckHarness
