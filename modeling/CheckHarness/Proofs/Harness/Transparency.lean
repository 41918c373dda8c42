import CheckHarness.Proofs.Harness.Course

/-!
# Reporters are transparent

A run over one reporter differs from a run over another only in what the reporters make
of the events.  The answers and the notes are the same step by step.  The reporters are
told the same events in the same order, and the harness writes its own lines between the
same events.

What the five reporters make of a list of emissions is said first, one lemma for each.
A tally keeps the events, and so does a tally behind relays.  A sink logs every event at
its place between the lines of the harness.  A console logs like a sink, keeps the
events like a tally and prints them.  `run_transparent` is the law for whole runs.
-/

namespace CheckHarness

open Reporter

/-! ## What is logged and printed -/

namespace Event

/-- The level and the message an event is logged with. -/
def announcement : Event → Log.Level × String
  | .outcome ⟨.pass, note⟩ => (.info, "PASS: " ++ note.getD "")
  | .outcome ⟨.fail, note⟩ => (.warn, "FAIL: " ++ note.getD "")
  | .outcome ⟨.todoPass, note⟩ => (.warn, "XPASS: " ++ note.getD "")
  | .outcome ⟨.todoFail, note⟩ => (.info, "XFAIL: " ++ note.getD "")
  | .debug message => (.debug, message)

/-- The line an event is printed as. -/
def display : Event → String
  | .outcome record => (announcement (.outcome record)).2
  | .debug message => "    " ++ message

theorem logLine_eq (event : Event) :
    event.logLine = ⟨.reporter, event.announcement.1, event.announcement.2⟩ := by
  cases event with
  | outcome record =>
      obtain ⟨outcome, note⟩ := record
      cases outcome <;> rfl
  | debug message => rfl

theorem consoleLine_eq (event : Event) : event.consoleLine = event.display := by
  cases event with
  | outcome record =>
      obtain ⟨outcome, note⟩ := record
      cases outcome <;> rfl
  | debug message => rfl

end Event

/-- The line that an emission leaves in the log behind a reporter that logs. -/
def Emission.logged : Emission → Log.Line
  | .wrote line => line
  | .told event => ⟨.reporter, event.announcement.1, event.announcement.2⟩

theorem Emission.logLine_eq (emission : Emission) : emission.logLine = emission.logged := by
  cases emission with
  | wrote line => rfl
  | told event => exact event.logLine_eq

/-! ## What reporters make of emissions -/

namespace Reporter

/-- A relay hands everything on. -/
theorem receive_relay {ρ : Type} [Reporter ρ] (reporter : ρ) (emissions : List Emission) :
    receive (⟨reporter⟩ : Relay ρ) emissions =
      (⟨(receive reporter emissions).1⟩, (receive reporter emissions).2) := by
  induction emissions generalizing reporter with
  | nil => rfl
  | cons emission rest ih =>
      cases emission with
      | wrote line => simp [ih]
      | told event => simp [ih]

/-- A sink logs every event at its place. -/
theorem receive_sink (sink : LogSink) (emissions : List Emission) :
    receive sink emissions = (sink, emissions.map Emission.logged) := by
  induction emissions with
  | nil => rfl
  | cons emission rest ih =>
      cases emission with
      | wrote line => simp [ih, Emission.logged]
      | told event => simp [ih, Emission.logged, event.logLine_eq]

theorem receive_new_tally (emissions : List Emission) :
    receive ({} : Tally) emissions =
      (⟨emissions.filterMap Emission.event?⟩, emissions.filterMap Emission.line?) := by
  rw [receive_tally, List.nil_append]

theorem receive_new_console (emissions : List Emission) :
    receive ({} : Console) emissions =
      (⟨(emissions.filterMap Emission.event?).map Event.display,
          ⟨emissions.filterMap Emission.event?⟩⟩,
        emissions.map Emission.logged) := by
  rw [receive_console, funext Event.consoleLine_eq, funext Emission.logLine_eq]
  rfl

end Reporter

/-! ## Whole runs -/

/-- The harness over another reporter. -/
def Harness.withReporter {σ ρ : Type} (h : Harness σ) (reporter : ρ) : Harness ρ where
  reporter := reporter
  note := h.note
  pollMillis := h.pollMillis
  interrupt := h.interrupt

namespace Op

/-- A run over a reporter follows the courses of its actions: the answers and the notes
are theirs, and the reporter receives what they emit. -/
theorem exists_courses_run {σ : Type} (patience : Nat) (ops : List Op) (h : Harness σ) :
    ∃ courses : List (Course Answer), ∀ (ρ : Type) [Reporter ρ] (reporter : ρ),
      let steps := stages patience ops (h.withReporter reporter)
      let done := (run patience ops).run (h.withReporter reporter)
      steps.map (·.value) = courses.map (·.value) ∧
        steps.map (·.harness.note) = courses.map (·.note) ∧
        done.value = courses.map (·.value) ∧
        (done.harness.reporter, done.log) =
          receive reporter (courses.flatMap (·.emissions)) := by
  obtain ⟨courses, follows⟩ := exists_courses patience ops h.note h.pollMillis h.interrupt
  refine ⟨courses, ?_⟩
  intro ρ _ reporter steps done
  have staged : steps = replay h.pollMillis courses reporter := follows ρ reporter
  have whole : done =
      { value := steps.map (·.value)
        harness := (steps.getLast?.map (·.harness)).getD (h.withReporter reporter)
        log := steps.flatMap (·.log)
        calls := steps.flatMap (·.calls) } := run_eq_stages patience ops _
  rw [staged] at whole
  refine ⟨?_, ?_, ?_, ?_⟩
  · rw [staged, map_value_replay]
  · rw [staged, map_note_replay]
  · rw [whole, map_value_replay]
  · rw [receive_replay h.pollMillis, whole]
    cases (replay h.pollMillis courses reporter).getLast? with
    | none => rfl
    | some _ => rfl

/-- The law of transparency.  There are courses, found before any reporter is chosen,
such that a run over any reporter gives their answers and their notes step by step, and
the reporter receives what they emit.  So all tallies keep the same events, and the log
of a sink or a console has the same events at the same places between the lines that the
harness writes over every reporter. -/
theorem run_transparent {σ : Type} (patience : Nat) (ops : List Op) (h : Harness σ) :
    ∃ courses : List (Course Answer),
      let emissions := courses.flatMap (·.emissions)
      let events := emissions.filterMap Emission.event?
      let written := emissions.filterMap Emission.line?
      let logged := emissions.map Emission.logged
      let tally := (run patience ops).run (h.withReporter ({} : Tally))
      let relay := (run patience ops).run (h.withReporter (⟨{}⟩ : Relay Tally))
      let relays := (run patience ops).run (h.withReporter (⟨⟨{}⟩⟩ : Relay (Relay Tally)))
      let sink := (run patience ops).run (h.withReporter ({} : LogSink))
      let console := (run patience ops).run (h.withReporter ({} : Console))
      (∀ (ρ : Type) [Reporter ρ] (reporter : ρ),
          let steps := stages patience ops (h.withReporter reporter)
          let done := (run patience ops).run (h.withReporter reporter)
          steps.map (·.value) = courses.map (·.value) ∧
            steps.map (·.harness.note) = courses.map (·.note) ∧
            done.value = courses.map (·.value) ∧
            (done.harness.reporter, done.log) = receive reporter emissions) ∧
        (tally.harness.reporter.events = events ∧ tally.log = written) ∧
        (relay.harness.reporter.inner.events = events ∧ relay.log = written) ∧
        (relays.harness.reporter.inner.inner.events = events ∧ relays.log = written) ∧
        sink.log = logged ∧
        console.harness.reporter.tally.events = events ∧
        console.harness.reporter.lines = events.map Event.display ∧ console.log = logged := by
  obtain ⟨courses, follows⟩ := exists_courses_run patience ops h
  refine ⟨courses, follows, ?_, ?_, ?_, ?_, ?_⟩
  · obtain ⟨_, _, _, received⟩ := follows Tally {}
    rw [receive_new_tally, Prod.mk.injEq] at received
    exact ⟨congrArg Tally.events received.1, received.2⟩
  · obtain ⟨_, _, _, received⟩ := follows (Relay Tally) ⟨{}⟩
    rw [receive_relay, receive_new_tally, Prod.mk.injEq] at received
    exact ⟨congrArg (·.inner.events) received.1, received.2⟩
  · obtain ⟨_, _, _, received⟩ := follows (Relay (Relay Tally)) ⟨⟨{}⟩⟩
    rw [receive_relay, receive_relay, receive_new_tally, Prod.mk.injEq] at received
    exact ⟨congrArg (·.inner.inner.events) received.1, received.2⟩
  · obtain ⟨_, _, _, received⟩ := follows LogSink {}
    rw [receive_sink, Prod.mk.injEq] at received
    exact received.2
  · obtain ⟨_, _, _, received⟩ := follows Console {}
    rw [receive_new_console, Prod.mk.injEq] at received
    exact ⟨congrArg (·.tally.events) received.1, congrArg Console.lines received.1, received.2⟩

end Op

end CheckHarness
