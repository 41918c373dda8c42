/-!
# Settings

What can be set for a run: how long to sleep between two polls of a screen, and
which lines of the log to let through.
-/

namespace CheckHarness

/-- The settings of a run. -/
structure Settings where
  /-- Milliseconds between two polls. -/
  pollMillis : Nat := 100
  /-- The word for the threshold of the log. -/
  logLevel : Option String := none
deriving DecidableEq, Repr

/-- A length of time in whole seconds and the nanoseconds beyond. -/
structure Duration where
  seconds : Nat
  nanoseconds : Nat
deriving DecidableEq, Repr

/-- The length of some milliseconds. -/
def Duration.ofMillis (millis : Nat) : Duration :=
  ⟨millis / 1000, millis % 1000 * 1000000⟩

/-- The time between two polls. -/
def Settings.pollInterval (settings : Settings) : Duration :=
  .ofMillis settings.pollMillis

end CheckHarness
