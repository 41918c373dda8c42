/-!
# The log

Messages for whoever watches a run.  Every line has a level and the part of the
program that wrote it.  The log is only watched: no check ever depends on which of
its lines are let through.

Which lines are let through is for a *filter* to say.  Filters name the parts of the
program by the names given here.
-/

namespace CheckHarness.Log

/-! ## Levels -/

/-- How grave a line is, the gravest first. -/
inductive Level where
  | error
  | warn
  | info
  | debug
  | trace
deriving DecidableEq, Repr

namespace Level

/-- Every level. -/
def all : List Level := [.error, .warn, .info, .debug, .trace]

/-- The name a level is printed by. -/
def name : Level → String
  | .error => "ERROR"
  | .warn => "WARN"
  | .info => "INFO"
  | .debug => "DEBUG"
  | .trace => "TRACE"

/-- How much must be let through before a level is. -/
def rank : Level → Nat
  | .error => 1
  | .warn => 2
  | .info => 3
  | .debug => 4
  | .trace => 5

end Level

/-- The least grave level that is let through, or nothing if none is. -/
abbrev Threshold := Option Level

namespace Threshold

/-- Whether a level is let through. -/
def admits : Threshold → Level → Bool
  | none, _ => false
  | some limit, level => level.rank ≤ limit.rank

/-- The threshold that lets everything through. -/
def lowest : Threshold := some .trace

/-- The threshold of a word: the name of a level, in any letter case, or `off`. -/
def ofWord? (word : String) : Option Threshold :=
  let upper := word.map Char.toUpper
  if upper = "OFF" then some none
  else (Level.all.find? fun level => level.name = upper).map some

end Threshold

/-! ## Lines -/

/-- The parts of the program that write to the log. -/
inductive Source where
  /-- The program around the checks. -/
  | program
  | reporter
  | testlet
  | harness
  | screen
deriving DecidableEq, Repr

/-- The name of a part, by which a filter knows it. -/
def Source.name : Source → String
  | .program => "testlet"
  | .reporter => "testlet_lib::reporter"
  | .testlet => "testlet_lib::testlet"
  | .harness => "testlet_lib::harness"
  | .screen => "testlet_lib::screen"

/-- One line of the log. -/
structure Line where
  source : Source
  level : Level
  message : String
deriving DecidableEq, Repr

end CheckHarness.Log
