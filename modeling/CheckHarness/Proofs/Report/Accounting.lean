import CheckHarness.Proofs.Report.Counting
import Mathlib.Data.List.DropRight

/-!
# What a tally is told

A tally is told outcomes and diagnostics, one after the other, and may be cleared at any
time.  It holds what it was told since it was last cleared, and nothing else
(`events_run_eq`).

All that a tally knows is read off its events, by one filter for each question.  The records
and the diagnostics share the events out between them (`interleaves_events`).  The counts are
taken of the records, and fit together (`Balanced`).  Where a tally is told more without being
cleared, each answer puts together those about what it held and about what is new (`Joins`).

`run_accounted` says so of every list of operations.
-/

namespace CheckHarness

/-! ## Shared lists -/

/-- `Interleaves left right whole`: the whole is shared out between the two lists.  Each of
its places goes to one of them, and both keep the order. -/
inductive Interleaves {α : Type} : List α → List α → List α → Prop where
  | nil : Interleaves [] [] []
  | left {a : α} {left right whole : List α} (rest : Interleaves left right whole) :
      Interleaves (a :: left) right (a :: whole)
  | right {a : α} {left right whole : List α} (rest : Interleaves left right whole) :
      Interleaves left (a :: right) (a :: whole)

namespace Interleaves

variable {α : Type} {left right whole : List α}

theorem symm (shared : Interleaves left right whole) : Interleaves right left whole := by
  induction shared with
  | nil => exact .nil
  | left _ ih => exact .right ih
  | right _ ih => exact .left ih

theorem left_sublist (shared : Interleaves left right whole) : left.Sublist whole := by
  induction shared with
  | nil => exact .slnil
  | left _ ih => exact ih.cons_cons _
  | right _ ih => exact ih.cons _

theorem right_sublist (shared : Interleaves left right whole) : right.Sublist whole :=
  shared.symm.left_sublist

theorem length_add (shared : Interleaves left right whole) :
    left.length + right.length = whole.length := by
  induction shared with
  | nil => rfl
  | left _ ih => rw [List.length_cons, List.length_cons, ← ih, Nat.add_right_comm]
  | right _ ih => rw [List.length_cons, List.length_cons, ← ih, Nat.add_assoc]

end Interleaves

namespace Tally

/-! ## Operations -/

/-- What is done to a tally. -/
inductive Op where
  | record (outcome : Outcome) (note : Option String)
  | debug (message : String)
  | clear
deriving DecidableEq, Repr

/-- The event an operation tells.  Clearing tells none. -/
def Op.event? : Op → Option Event
  | .record outcome note => some (.outcome ⟨outcome, note⟩)
  | .debug message => some (.debug message)
  | .clear => none

/-- One operation. -/
def step (tally : Tally) : Op → Tally
  | .record outcome note => (Reporter.report tally (.outcome ⟨outcome, note⟩)).1
  | .debug message => (Reporter.report tally (.debug message)).1
  | .clear => tally.clear

/-- Operations one after the other. -/
def run (tally : Tally) (ops : List Op) : Tally := ops.foldl step tally

/-- The operations behind the last clearing, or all if there is none. -/
def sinceClear (ops : List Op) : List Op := ops.rtakeWhile (· ≠ .clear)

theorem run_append (tally : Tally) (first second : List Op) :
    tally.run (first ++ second) = (tally.run first).run second :=
  List.foldl_append

theorem run_concat (tally : Tally) (ops : List Op) (op : Op) :
    tally.run (ops ++ [op]) = (tally.run ops).step op :=
  tally.run_append ops [op]

theorem sinceClear_concat (ops : List Op) (op : Op) :
    sinceClear (ops ++ [op]) = if op = .clear then [] else sinceClear ops ++ [op] := by
  rw [sinceClear, List.rtakeWhile_concat, sinceClear]
  by_cases cleared : op = .clear <;> simp [cleared]

/-- One operation adds the event it tells, or leaves nothing. -/
theorem events_step (tally : Tally) (op : Op) :
    (tally.step op).events =
      if op = .clear then [] else tally.events ++ [op].filterMap Op.event? := by
  cases op with
  | record outcome note => rfl
  | debug message => rfl
  | clear => rfl

/-- A tally holds what it was told since it was last cleared. -/
theorem events_run_eq (tally : Tally) (ops : List Op) :
    (tally.run ops).events =
      (if .clear ∈ ops then [] else tally.events) ++ (sinceClear ops).filterMap Op.event? := by
  -- The last operation decides what is left of the earlier ones.
  induction ops using List.reverseRecOn with
  | nil => simp [run, sinceClear]
  | append_singleton ops op ih =>
      rw [run_concat, events_step, ih, sinceClear_concat]
      by_cases cleared : op = .clear
      · simp [cleared]
      · simp [cleared, Ne.symm cleared]

/-- A tally that is not cleared keeps its events in front of what it is told. -/
theorem events_run_of_notMem (tally : Tally) {ops : List Op} (quiet : .clear ∉ ops) :
    (tally.run ops).events = tally.events ++ (run {} ops).events := by
  rw [events_run_eq, events_run_eq, if_neg quiet, if_neg quiet, List.nil_append]

/-! ## Answers that fit together -/

/-- Each event is either recorded or a diagnostic. -/
theorem interleaves_events (events : List Event) :
    Interleaves ((records ⟨events⟩).map Event.outcome)
      ((debugMessages ⟨events⟩).map Event.debug) events := by
  rw [records, debugMessages]
  induction events with
  | nil => exact .nil
  | cons event events ih =>
      cases event with
      | outcome record => exact .left ih
      | debug message => exact .right ih

/-- The answers of a tally fit together. -/
structure Balanced (tally : Tally) : Prop where
  /-- The records and the diagnostics share the events out between them. -/
  shared : Interleaves (tally.records.map .outcome) (tally.debugMessages.map .debug) tally.events
  records : (tally.records.map .outcome).Sublist tally.events
  debugMessages : (tally.debugMessages.map .debug).Sublist tally.events
  length : tally.records.length + tally.debugMessages.length = tally.events.length
  total : tally.total =
    tally.count .pass + tally.count .fail + tally.count .todoPass + tally.count .todoFail
  outcomes : tally.total = tally.outcomes.length
  failures : tally.failures = tally.count .fail + tally.count .todoPass
  failures_le : tally.failures ≤ tally.total

theorem balanced (tally : Tally) : tally.Balanced where
  shared := interleaves_events tally.events
  records := (interleaves_events tally.events).left_sublist
  debugMessages := (interleaves_events tally.events).right_sublist
  length := by simpa using (interleaves_events tally.events).length_add
  total := by rw [tally.total_eq, Nat.add_right_comm]
  outcomes := (List.length_map _).symm
  failures := tally.failures_eq
  failures_le := List.countP_le_length

/-- The answers of a tally are those of two others, joined. -/
structure Joins (whole first second : Tally) : Prop where
  events : whole.events = first.events ++ second.events
  records : whole.records = first.records ++ second.records
  debugMessages : whole.debugMessages = first.debugMessages ++ second.debugMessages
  outcomes : whole.outcomes = first.outcomes ++ second.outcomes
  count : ∀ outcome, whole.count outcome = first.count outcome + second.count outcome
  failures : whole.failures = first.failures + second.failures
  total : whole.total = first.total + second.total

theorem joins_append (events later : List Event) :
    Joins ⟨events ++ later⟩ ⟨events⟩ ⟨later⟩ where
  events := rfl
  records := records_append events later
  debugMessages := List.filterMap_append
  outcomes := by rw [outcomes, records_append, List.map_append]; rfl
  count := count_append events later
  failures := failures_append events later
  total := total_append events later

/-! ## Any list of operations -/

/-- The law of accounting.  After any operations a tally holds exactly what it was told since
it was last cleared, in order and with the notes, and its answers fit together.  What it is
told without being cleared is added to each answer. -/
theorem run_accounted (tally : Tally) (ops : List Op) :
    let after := tally.run ops
    after.events =
        (if .clear ∈ ops then [] else tally.events) ++ (sinceClear ops).filterMap Op.event? ∧
      after.Balanced ∧
      ∀ first second, ops = first ++ second → .clear ∉ second →
        after.Joins (tally.run first) (run {} second) := by
  intro after
  refine ⟨tally.events_run_eq ops, after.balanced, ?_⟩
  rintro first second rfl quiet
  have joined : after = ⟨(tally.run first).events ++ (run {} second).events⟩ := by
    rw [← events_run_of_notMem _ quiet, ← run_append]
  rw [joined]
  exact joins_append _ _

/-- Outcomes on both sides of a clearing, and a split behind it. -/
theorem run_accounted_cleared :
    let tally : Tally := ⟨[.debug "earlier"]⟩
    let first : List Op := [.record .fail (some "old"), .clear, .record .todoPass none]
    let second : List Op := [.debug "got (true)", .record .fail (some "new"), .record .pass none]
    let after := tally.run (first ++ second)
    .clear ∉ second ∧
      after.events =
        [.outcome ⟨.todoPass, none⟩, .debug "got (true)", .outcome ⟨.fail, some "new"⟩,
          .outcome ⟨.pass, none⟩] ∧
      after.failures = (tally.run first).failures + (run {} second).failures ∧
      after.failures = 2 := by
  intro tally first second after
  have quiet : .clear ∉ second := by decide
  obtain ⟨events, -, joins⟩ := run_accounted tally (first ++ second)
  exact ⟨quiet, events.trans (by decide), (joins first second rfl quiet).failures, by decide⟩

end Tally

end CheckHarness
