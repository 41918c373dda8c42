import CheckHarness.Log
import CheckHarness.Outcome

/-!
# Reporters

Whatever a check brings about is an *event*: an outcome with the note in force, or
a diagnostic message.  A reporter is told each event in turn.  It changes its own
state and may write to the log.

There are three reporters.  A `Tally` keeps the events.  The `LogSink` turns each
event into a line of the log.  The `Console` prints each event as a line of text,
and does what the other two do.  A `Relay` hands every event on to a reporter it
holds.
-/

namespace CheckHarness

/-! ## Events -/

/-- A recorded outcome and the note it is recorded under. -/
structure Record where
  outcome : Outcome
  note : Option String
deriving DecidableEq, Repr

/-- What a reporter is told. -/
inductive Event where
  | outcome (record : Record)
  | debug (message : String)
deriving DecidableEq, Repr

namespace Record

/-- The label and the note, which is empty when there is none. -/
def text (r : Record) : String := r.outcome.label ++ ": " ++ r.note.getD ""

/-- The level at which a record is logged. -/
def level (r : Record) : Log.Level := if r.outcome.isFailure then .warn else .info

end Record

namespace Event

/-- The record of an outcome. -/
def record? : Event → Option Record
  | .outcome record => some record
  | .debug _ => none

/-- The message of a diagnostic. -/
def message? : Event → Option String
  | .outcome _ => none
  | .debug message => some message

/-- The line of the log for an event. -/
def logLine : Event → Log.Line
  | .outcome record => ⟨.reporter, record.level, record.text⟩
  | .debug message => ⟨.reporter, .debug, message⟩

/-- The line of the console for an event.  Diagnostics are indented. -/
def consoleLine : Event → String
  | .outcome record => record.text
  | .debug message => "    " ++ message

end Event

/-! ## Reporters -/

/-- Types whose values can be told events. -/
class Reporter (ρ : Type) where
  /-- The reporter after an event, and what it logs about it. -/
  report : ρ → Event → ρ × List Log.Line

/-- Keeps every event, oldest first. -/
structure Tally where
  events : List Event := []
deriving DecidableEq, Repr

/-- Logs every event. -/
structure LogSink where
deriving DecidableEq, Repr

/-- Prints every event, logs it and keeps it. -/
structure Console where
  /-- The printed lines, oldest first. -/
  lines : List String := []
  tally : Tally := {}
deriving DecidableEq, Repr

/-- Hands every event on. -/
structure Relay (ρ : Type) where
  inner : ρ
deriving DecidableEq, Repr

instance : Reporter Tally where
  report tally event := (⟨tally.events ++ [event]⟩, [])

instance : Reporter LogSink where
  report sink event := (sink, [event.logLine])

instance : Reporter Console where
  report console event :=
    (⟨console.lines ++ [event.consoleLine], ⟨console.tally.events ++ [event]⟩⟩, [event.logLine])

instance {ρ : Type} [Reporter ρ] : Reporter (Relay ρ) where
  report relay event :=
    let (inner, lines) := Reporter.report relay.inner event
    (⟨inner⟩, lines)

@[simp] theorem report_tally (tally : Tally) (event : Event) :
    Reporter.report tally event = (⟨tally.events ++ [event]⟩, []) := rfl

@[simp] theorem report_sink (sink : LogSink) (event : Event) :
    Reporter.report sink event = (sink, [event.logLine]) := rfl

@[simp] theorem report_console (console : Console) (event : Event) :
    Reporter.report console event =
      (⟨console.lines ++ [event.consoleLine], ⟨console.tally.events ++ [event]⟩⟩,
        [event.logLine]) := rfl

@[simp] theorem report_relay {ρ : Type} [Reporter ρ] (relay : Relay ρ) (event : Event) :
    Reporter.report relay event =
      (⟨(Reporter.report relay.inner event).1⟩, (Reporter.report relay.inner event).2) := rfl

/-! ## What a tally knows -/

namespace Tally

/-- The recorded outcomes with their notes. -/
def records (tally : Tally) : List Record := tally.events.filterMap Event.record?

/-- The diagnostic messages. -/
def debugMessages (tally : Tally) : List String := tally.events.filterMap Event.message?

/-- The recorded outcomes. -/
def outcomes (tally : Tally) : List Outcome := tally.records.map Record.outcome

/-- How often an outcome was recorded. -/
def count (tally : Tally) (outcome : Outcome) : Nat :=
  tally.records.countP fun record => record.outcome = outcome

/-- How many recorded outcomes are failures. -/
def failures (tally : Tally) : Nat :=
  tally.records.countP fun record => record.outcome.isFailure

/-- How many outcomes were recorded. -/
def total (tally : Tally) : Nat := tally.records.length

/-- The tally that has forgotten everything. -/
def clear (_ : Tally) : Tally := {}

end Tally

end CheckHarness
