import CheckHarness.Harness.Run

/-!
# What actions emit

Two things come out of an action while it runs.  The harness writes lines to the
log, and it tells its reporter events.  Both are *emissions*.  What a reporter
makes of them is `Reporter.receive`: it passes the lines on, and answers each event
with lines of its own.

An action of the harness is known by its value, the note and the interrupt it
leaves, and its emissions.  None of these depends on the reporter.  The lemmas
`run_check` to `run_awaitVisible` say what they are, one lemma for each action, and
nothing later opens the actions themselves.
-/

namespace CheckHarness

variable {ρ α β : Type} [Reporter ρ]

/-! ## Emissions -/

/-- What comes out of an action while it runs. -/
inductive Emission where
  /-- The harness writes a line to the log. -/
  | wrote (line : Log.Line)
  /-- The harness tells its reporter an event. -/
  | told (event : Event)
deriving DecidableEq, Repr

namespace Emission

/-- The event the reporter is told. -/
def event? : Emission → Option Event
  | .wrote _ => none
  | .told event => some event

/-- The line the harness writes. -/
def line? : Emission → Option Log.Line
  | .wrote line => some line
  | .told _ => none

/-- What is in the log behind a reporter that logs every event. -/
def logLine : Emission → Log.Line
  | .wrote line => line
  | .told event => event.logLine

end Emission

namespace Reporter

/-- The reporter after some emissions, and the log they leave. -/
def receive (reporter : ρ) : List Emission → ρ × List Log.Line
  | [] => (reporter, [])
  | .wrote line :: rest => ((receive reporter rest).1, line :: (receive reporter rest).2)
  | .told event :: rest =>
    ((receive (report reporter event).1 rest).1,
      (report reporter event).2 ++ (receive (report reporter event).1 rest).2)

@[simp] theorem receive_nil (reporter : ρ) : receive reporter [] = (reporter, []) := rfl

@[simp] theorem receive_wrote (reporter : ρ) (line : Log.Line) (rest : List Emission) :
    receive reporter (.wrote line :: rest) =
      ((receive reporter rest).1, line :: (receive reporter rest).2) := rfl

@[simp] theorem receive_told (reporter : ρ) (event : Event) (rest : List Emission) :
    receive reporter (.told event :: rest) =
      ((receive (report reporter event).1 rest).1,
        (report reporter event).2 ++ (receive (report reporter event).1 rest).2) := rfl

/-- A tally keeps the events.  Only the harness writes to the log. -/
theorem receive_tally (tally : Tally) (emissions : List Emission) :
    receive tally emissions =
      (⟨tally.events ++ emissions.filterMap Emission.event?⟩,
        emissions.filterMap Emission.line?) := by
  induction emissions generalizing tally with
  | nil => simp
  | cons emission rest ih =>
      cases emission with
      | wrote line => simp [ih, List.filterMap_cons, Emission.event?, Emission.line?]
      | told event => simp [ih, List.filterMap_cons, Emission.event?, Emission.line?]

/-- The console prints the events and keeps them.  Everything is logged. -/
theorem receive_console (console : Console) (emissions : List Emission) :
    receive console emissions =
      (⟨console.lines ++ (emissions.filterMap Emission.event?).map Event.consoleLine,
          ⟨console.tally.events ++ emissions.filterMap Emission.event?⟩⟩,
        emissions.map Emission.logLine) := by
  induction emissions generalizing console with
  | nil => simp
  | cons emission rest ih =>
      cases emission with
      | wrote line => simp [ih, List.filterMap_cons, Emission.event?, Emission.logLine]
      | told event => simp [ih, Emission.event?, Emission.logLine]

/-- Events alone are printed, kept and logged in order. -/
theorem receive_console_told (console : Console) (events : List Event) :
    receive console (events.map Emission.told) =
      (⟨console.lines ++ events.map Event.consoleLine, ⟨console.tally.events ++ events⟩⟩,
        events.map Event.logLine) := by
  have told : (events.map Emission.told).filterMap Emission.event? = events := by
    rw [List.filterMap_map]
    exact List.filterMap_some
  have logged : (events.map Emission.told).map Emission.logLine = events.map Event.logLine := by
    rw [List.map_map]
    rfl
  rw [receive_console, told, logged]

end Reporter

namespace Harness

open Reporter CheckHarness.Action

/-- What an action leaves behind when all it does is to emit. -/
def emit (h : Harness ρ) (value : α) (emissions : List Emission) : Done ρ α where
  value := value
  harness := { h with reporter := (receive h.reporter emissions).1 }
  log := (receive h.reporter emissions).2

@[simp] theorem emit_value (h : Harness ρ) (value : α) (emissions : List Emission) :
    (h.emit value emissions).value = value := rfl

@[simp] theorem emit_harness (h : Harness ρ) (value : α) (emissions : List Emission) :
    (h.emit value emissions).harness =
      { h with reporter := (receive h.reporter emissions).1 } := rfl

@[simp] theorem emit_log (h : Harness ρ) (value : α) (emissions : List Emission) :
    (h.emit value emissions).log = (receive h.reporter emissions).2 := rfl

@[simp] theorem emit_calls (h : Harness ρ) (value : α) (emissions : List Emission) :
    (h.emit value emissions).calls = [] := rfl

/-! ## Notes and diagnostics -/

theorem run_setNote (note : String) (h : Harness ρ) :
    (setNote note).run h = ({ h with note := some note }).emit () [] := rfl

theorem run_debug (message : String) (h : Harness ρ) :
    (debug message).run h = h.emit () [.told (.debug message)] := by
  simp [debug, emit]

theorem run_recordAs (outcome : Outcome) (note : Option String) (h : Harness ρ) :
    (recordAs outcome note).run h = h.emit () [.told (.outcome ⟨outcome, note⟩)] := by
  simp [recordAs, emit]

theorem run_record (outcome : Outcome) (h : Harness ρ) :
    (record outcome).run h = h.emit outcome [.told (.outcome ⟨outcome, h.note⟩)] := by
  simp [record, run_recordAs, emit]

/-! ## Checks -/

theorem run_check (ok : Bool) (h : Harness ρ) :
    (check ok).run h = h.emit (.ofCheck ok) [.told (.outcome ⟨.ofCheck ok, h.note⟩)] :=
  run_record _ h

theorem run_checkNoted (ok : Bool) (note : String) (h : Harness ρ) :
    (checkNoted ok note).run h =
      ({ h with note := some note }).emit (.ofCheck ok)
        [.told (.outcome ⟨.ofCheck ok, some note⟩)] := by
  simp [checkNoted, run_setNote, run_check, emit]

theorem run_checkEq (operands : Operands) (h : Harness ρ) :
    (checkEq operands).run h =
      h.emit (.ofCheck operands.agree)
        (.told (.outcome ⟨.ofCheck operands.agree, h.note⟩) ::
          if operands.agree then []
          else [.told (.debug
            ("got (" ++ operands.result ++ "), expected (" ++ operands.expected ++ ")"))]) := by
  cases agree : operands.agree with
  | true => simp [checkEq, agree, run_check, emit]
  | false => simp [checkEq, agree, run_check, run_debug, emit]

theorem run_checkEqNoted (operands : Operands) (note : String) (h : Harness ρ) :
    (checkEqNoted operands note).run h =
      (checkEq operands).run { h with note := some note } := by
  simp [checkEqNoted, run_setNote]

/-! ## Todos -/

theorem run_todoEq (operands : Operands) (h : Harness ρ) :
    (todoEq operands).run h =
      h.emit (.ofTodo operands.agree)
        (.told (.outcome ⟨.ofTodo operands.agree, h.note⟩) ::
          if operands.agree then [.told (.debug ("got (" ++ operands.result ++ ")"))]
          else []) := by
  cases agree : operands.agree with
  | true => simp [todoEq, agree, run_record, run_debug, emit]
  | false => simp [todoEq, agree, run_record, emit]

theorem run_todoEqNoted (operands : Operands) (note : String) (h : Harness ρ) :
    (todoEqNoted operands note).run h =
      (todoEq operands).run { h with note := some note } := by
  simp [todoEqNoted, run_setNote]

theorem run_todo (ok : Bool) (h : Harness ρ) :
    (todo ok).run h = (todoEq (.bool ok true)).run h := rfl

theorem run_todoNoted (ok : Bool) (note : String) (h : Harness ρ) :
    (todoNoted ok note).run h = (todo ok).run { h with note := some note } := by
  simp [todoNoted, run_setNote]

/-! ## Shorthands -/

theorem run_pass (h : Harness ρ) :
    pass.run h = h.emit .pass [.told (.outcome ⟨.pass, h.note⟩)] :=
  run_check true h

theorem run_passNoted (note : String) (h : Harness ρ) :
    (passNoted note).run h =
      ({ h with note := some note }).emit .pass [.told (.outcome ⟨.pass, some note⟩)] :=
  run_checkNoted true note h

theorem run_fail (h : Harness ρ) :
    fail.run h = h.emit .fail [.told (.outcome ⟨.fail, h.note⟩)] :=
  run_check false h

theorem run_failNoted (note : String) (h : Harness ρ) :
    (failNoted note).run h =
      ({ h with note := some note }).emit .fail
        [.wrote ⟨.harness, .debug, "TestHarness::fail_noted: " ++ note⟩,
          .told (.outcome ⟨.fail, some note⟩)] := by
  simp [failNoted, run_checkNoted, emit, Outcome.ofCheck]

/-! ## Visual checks and waits -/

theorem run_compareVisual (pixels : PixelCounter) (reference : String) (limit : Int32)
    (message : String) (h : Harness ρ) :
    (compareVisual pixels reference limit message).run h =
      let note := message ++ ". " ++ shown (pixels reference) ++ " > " ++ shown limit
      { ({ h with note := some note }).emit (Outcome.ofCheck (pixels reference ≤ limit))
          [.wrote ⟨.screen, .debug, "TestHarness::compare_visual_state(reference=" ++ reference ++
              ", differing=" ++ shown (pixels reference) ++ ", max=" ++ shown limit ++ ")"⟩,
            .told (.outcome ⟨.ofCheck (pixels reference ≤ limit), some note⟩)] with
        calls := [.countDiffering reference] } := by
  simp [compareVisual, run_checkNoted, emit]

omit [Reporter ρ] in
/-- One poll.  The screen comes first: a target that is shown leaves the interrupt
pending.  The sleep that follows otherwise clears it. -/
theorem run_poll_succ (screen : Screen) (target : String) (patience polls : Nat)
    (before : List Call) (h : Harness ρ) :
    (poll screen target (patience + 1) polls before).run h =
      let calls := before ++ [.isDisplayed target]
      let look := screen calls
      let pending := h.interrupt.pending || look.interrupts
      if look.shown then
        { value := .shown polls, harness := { h with interrupt := ⟨pending⟩ },
          calls := [.isDisplayed target] }
      else if pending || look.wakes then
        { value := .interrupted polls, harness := { h with interrupt := ⟨false⟩ },
          calls := [.isDisplayed target] }
      else
        let rest := (poll screen target patience (polls + 1) calls).run
          { h with interrupt := ⟨false⟩ }
        { rest with calls := .isDisplayed target :: rest.calls } := by
  obtain ⟨reporter, note, pollMillis, ⟨pending⟩⟩ := h
  generalize hlook : screen (before ++ [.isDisplayed target]) = look
  obtain ⟨shown, interrupts, wakes⟩ := look
  cases shown <;> cases interrupts <;> cases wakes <;> cases pending <;>
    simp [poll, hlook, Interrupt.raise, Interrupt.sleep]

omit [Reporter ρ] in
/-- Polling touches nothing but the interrupt, and emits nothing. -/
theorem run_poll (screen : Screen) (target : String) (patience polls : Nat)
    (before : List Call) (h : Harness ρ) :
    ∃ wait interrupt calls, (poll screen target patience polls before).run h =
      { value := wait, harness := { h with interrupt }, calls } := by
  induction patience generalizing polls before h with
  | zero => exact ⟨.waiting, h.interrupt, [], rfl⟩
  | succ patience ih =>
      rw [run_poll_succ]
      dsimp only
      split
      · exact ⟨_, _, _, rfl⟩
      · split
        · exact ⟨_, _, _, rfl⟩
        · obtain ⟨wait, interrupt, calls, rest⟩ := ih (polls + 1)
            (before ++ [.isDisplayed target]) { h with interrupt := ⟨false⟩ }
          exact ⟨wait, interrupt, .isDisplayed target :: calls, by rw [rest]⟩

theorem run_awaitVisible (patience : Nat) (screen : Screen) (target : String) (h : Harness ρ) :
    (awaitVisible patience screen target).run h =
      let waited := (poll screen target patience 0 [.setCurrent target]).run h
      let calls := .setCurrent target :: waited.calls
      match waited.value with
      | .shown polls =>
        { waited.harness.emit (some true)
            [.wrote ⟨.screen, .debug,
              "TestHarness::await_visible_state: visible after " ++ polls.repr ++ " polls"⟩] with
          calls }
      | .interrupted polls =>
        { ({ waited.harness with note := some "INTERRUPTED" }).emit (some false)
            [.wrote ⟨.screen, .warn,
                "TestHarness::await_visible_state: interrupted after " ++ polls.repr ++ " polls"⟩,
              .wrote ⟨.harness, .debug, "TestHarness::fail_noted: INTERRUPTED"⟩,
              .told (.outcome ⟨.fail, some "INTERRUPTED"⟩)] with
          calls }
      | .waiting => { waited.harness.emit none [] with calls } := by
  obtain ⟨wait, interrupt, calls, polled⟩ :=
    run_poll screen target patience 0 [.setCurrent target] h
  rw [polled]
  cases wait with
  | shown polls => simp [awaitVisible, polled, emit]
  | interrupted polls => simp [awaitVisible, polled, run_failNoted, interruptedNote, emit]
  | waiting => simp [awaitVisible, polled, emit]

end Harness

end CheckHarness
