import CheckHarness.Proofs.Harness.Course
import CheckHarness.Proofs.Harness.Wrapping
import CheckHarness.Proofs.Report.Counting

/-!
# Todos are the dual of checks

A run of comparisons has a *dual*: every comparison becomes a todo, and every todo a
comparison, of the same operands and under the same note.  Where the operands agree, the
comparison passes and the todo fails; where they differ, it is the other way round.  Each
failure, of either kind, is explained by one diagnostic right behind it.

So the events of a run and of its dual stay in step.  `Opposed` is this relation of two
lists of events.  `Dual.adds` shows that one action and its dual add events in step, and
`run_opposed` that whole runs do.  What `run_dual` says of both runs, of their records, their
failures and their diagnostics, is read off the relation.
-/

namespace CheckHarness

/-! ## Events in step -/

namespace Event

/-- Whether the event is a diagnostic. -/
def isDebug : Event → Bool
  | .outcome _ => false
  | .debug _ => true

/-- Whether the event is a failing outcome. -/
def isFailure : Event → Bool
  | .outcome record => record.outcome.isFailure
  | .debug _ => false

end Event

/-- The events are in step.  Each record faces one under the same note.  Exactly one of the
two is a failure, and a diagnostic right behind explains it. -/
inductive Opposed : List Event → List Event → Prop where
  | nil : Opposed [] []
  | left {r r' : Record} {message : String} {events events' : List Event}
      (note : r.note = r'.note) (fails : r.outcome.isFailure = true)
      (holds : r'.outcome.isFailure = false) (rest : Opposed events events') :
      Opposed (.outcome r :: .debug message :: events) (.outcome r' :: events')
  | right {r r' : Record} {message : String} {events events' : List Event}
      (note : r.note = r'.note) (holds : r.outcome.isFailure = false)
      (fails : r'.outcome.isFailure = true) (rest : Opposed events events') :
      Opposed (.outcome r :: events) (.outcome r' :: .debug message :: events')

/-- Every failure is explained: the diagnostics are as many as the failures, and the places
of the diagnostics are those right behind the failures, in order. -/
structure Tally.Explained (tally : Tally) : Prop where
  length : tally.debugMessages.length = tally.failures
  places : tally.events.findIdxs Event.isDebug =
    (tally.events.findIdxs Event.isFailure).map (· + 1)

/-- An outcome with diagnostics behind it is one record. -/
theorem Tally.total_outcome (record : Record) (messages : List String) :
    Tally.total ⟨.outcome record :: messages.map Event.debug⟩ = 1 := by
  have none : (messages.map Event.debug).filterMap Event.record? = [] := by
    rw [List.filterMap_map]
    exact List.filterMap_eq_nil_iff.mpr fun _ _ => rfl
  simp only [Tally.total, Tally.records, List.filterMap_cons, Event.record?, none,
    List.length_singleton]

namespace Opposed

variable {events events' : List Event}

theorem symm (opposed : Opposed events events') : Opposed events' events := by
  induction opposed with
  | nil => exact .nil
  | left note fails holds _ ih => exact .right note.symm holds fails ih
  | right note holds fails _ ih => exact .left note.symm fails holds ih

theorem append {later later' : List Event} (opposed : Opposed events events')
    (opposed' : Opposed later later') : Opposed (events ++ later) (events' ++ later') := by
  induction opposed with
  | nil => exact opposed'
  | left note fails holds _ ih => exact .left note fails holds ih
  | right note holds fails _ ih => exact .right note holds fails ih

/-- The records of both lists have the same notes. -/
theorem notes_eq (opposed : Opposed events events') :
    (Tally.records ⟨events⟩).map Record.note = (Tally.records ⟨events'⟩).map Record.note := by
  simp only [Tally.records]
  induction opposed with
  | nil => rfl
  | left note _ _ _ ih =>
      simp only [List.filterMap_cons, Event.record?, List.map_cons, note, ih]
  | right note _ _ _ ih =>
      simp only [List.filterMap_cons, Event.record?, List.map_cons, note, ih]

/-- A record is a failure exactly when the one it faces is not. -/
theorem failures_opposite (opposed : Opposed events events') :
    List.Forall₂ (fun r r' : Record => r.outcome.isFailure = !r'.outcome.isFailure)
      (Tally.records ⟨events⟩) (Tally.records ⟨events'⟩) := by
  simp only [Tally.records]
  induction opposed with
  | nil => exact .nil
  | left _ fails holds _ ih =>
      exact .cons (by rw [fails, holds]; rfl) ih
  | right _ holds fails _ ih =>
      exact .cons (by rw [fails, holds]; rfl) ih

/-- The failures of both lists add up to the records of one. -/
theorem failures_add (opposed : Opposed events events') :
    Tally.failures ⟨events⟩ + Tally.failures ⟨events'⟩ = Tally.total ⟨events⟩ := by
  simp only [Tally.failures, Tally.total, Tally.records]
  induction opposed with
  | nil => rfl
  | left _ fails holds _ ih =>
      simp only [List.filterMap_cons, Event.record?, List.countP_cons, fails, holds,
        List.length_cons, if_true, Bool.false_eq_true, if_false]
      omega
  | right _ holds fails _ ih =>
      simp only [List.filterMap_cons, Event.record?, List.countP_cons, fails, holds,
        List.length_cons, if_true, Bool.false_eq_true, if_false]
      omega

/-- Seen from any place on, diagnostics come right behind failures. -/
theorem places_from (opposed : Opposed events events') (start : Nat) :
    events.findIdxs Event.isDebug start =
      (events.findIdxs Event.isFailure start).map (· + 1) := by
  induction opposed generalizing start with
  | nil => rfl
  | left _ fails _ _ ih =>
      simp only [List.findIdxs_cons, Event.isDebug, Event.isFailure, fails, if_true,
        Bool.false_eq_true, if_false, List.map_cons, ih]
  | right _ holds _ _ ih =>
      simp only [List.findIdxs_cons, Event.isDebug, Event.isFailure, holds, Bool.false_eq_true,
        if_false, ih]

theorem explained (opposed : Opposed events events') : Tally.Explained ⟨events⟩ where
  length := by
    simp only [Tally.debugMessages, Tally.failures, Tally.records]
    induction opposed with
    | nil => rfl
    | left _ fails _ _ ih =>
        simp only [List.filterMap_cons, Event.record?, Event.message?, List.countP_cons, fails,
          List.length_cons, if_true, ih]
    | right _ holds _ _ ih =>
        simp only [List.filterMap_cons, Event.record?, Event.message?, List.countP_cons, holds,
          Bool.false_eq_true, if_false, Nat.add_zero, ih]
  places := opposed.places_from 0

end Opposed

/-! ## Actions that only tell events -/

open Reporter

/-- Started under a note, the action gives a value, leaves a note and tells some events.
It does nothing else, whatever the reporter and the rest of the harness are. -/
def Tells {α : Type} (action : ∀ (ρ : Type) [Reporter ρ], Action ρ α) (note : Option String)
    (value : α) (last : Option String) (events : List Event) : Prop :=
  ∀ (ρ : Type) [Reporter ρ] (h : Harness ρ), h.note = note →
    (action ρ).run h = ({ h with note := last }).emit value (events.map Emission.told)

namespace Tells

variable {α β : Type} {action : ∀ (ρ : Type) [Reporter ρ], Action ρ α}
  {note last : Option String} {value : α} {events : List Event}

theorem map (f : α → β) (tells : Tells action note value last events) :
    Tells (fun ρ _ => f <$> action ρ) note (f value) last events := by
  intro ρ _ h under
  rw [Action.run_map, tells ρ h under]
  rfl

/-- An action with a note of its own. -/
theorem noted {text : String} (tells : Tells action (some text) value last events) :
    Tells (fun ρ _ => Harness.setNote text >>= fun _ => action ρ) note value last events := by
  intro ρ _ h _
  rw [Action.run_bind, Harness.run_setNote]
  dsimp only [Harness.emit, receive_nil]
  rw [tells ρ { h with note := some text } rfl]
  rfl

/-- A tally holds the events told to it behind those it had. -/
theorem events_eq {action : ∀ (ρ : Type) [Reporter ρ], Action ρ α}
    (tells : Tells action note value last events) {h : Harness Tally} (under : h.note = note) :
    ((action Tally).run h).harness.reporter.events = h.reporter.events ++ events := by
  have told : (events.map Emission.told).filterMap Emission.event? = events := by
    rw [List.filterMap_map]
    exact List.filterMap_some
  rw [tells Tally h under, Harness.emit_harness, receive_tally, told]

end Tells

namespace Op

open Harness

theorem tells_nil (patience : Nat) (note : Option String) :
    Tells (fun _ _ => run patience []) note [] note [] := by
  rintro ρ _ h rfl
  rfl

/-- What a run tells is what its actions tell, one after the other. -/
theorem tells_cons {patience : Nat} {op : Op} {ops : List Op} {note between last : Option String}
    {answer : Answer} {answers : List Answer} {events later : List Event}
    (returns : answer ≠ .waiting)
    (first : Tells (fun _ _ => op.perform patience) note answer between events)
    (rest : Tells (fun _ _ => run patience ops) between answers last later) :
    Tells (fun _ _ => run patience (op :: ops)) note (answer :: answers) last
      (events ++ later) := by
  intro ρ _ h under
  have one := first ρ h under
  rw [run_cons patience op ops h (by rw [one]; exact returns), one]
  dsimp only [emit_value, emit_harness, emit_log, emit_calls]
  rw [rest ρ { h with
    note := between
    reporter := (receive h.reporter (events.map Emission.told)).1 } rfl]
  simp only [emit, List.map_append, receive_append, List.nil_append]

/-! ## Comparisons and their duals -/

/-- Whether the action compares operands. -/
def isComparison : Op → Bool
  | .checkEq _ | .checkEqNoted _ _ | .todoEq _ | .todoEqNoted _ _ => true
  | _ => false

/-- One of the actions is a comparison, and the other the todo with the same operands and
the same note.  An action that only sets the note is its own dual. -/
inductive Dual : Op → Op → Prop where
  | checkEq (operands : Operands) : Dual (.checkEq operands) (.todoEq operands)
  | checkEqNoted (operands : Operands) (note : String) :
      Dual (.checkEqNoted operands note) (.todoEqNoted operands note)
  | todoEq (operands : Operands) : Dual (.todoEq operands) (.checkEq operands)
  | todoEqNoted (operands : Operands) (note : String) :
      Dual (.todoEqNoted operands note) (.checkEqNoted operands note)
  | setNote (note : String) : Dual (.setNote note) (.setNote note)

/-- The events of a comparison. -/
def checkEvents (operands : Operands) (note : Option String) : List Event :=
  .outcome ⟨.ofCheck operands.agree, note⟩ :: (mismatch operands).map Event.debug

/-- The events of a todo. -/
def todoEvents (operands : Operands) (note : Option String) : List Event :=
  .outcome ⟨.ofTodo operands.agree, note⟩ :: (surprise operands).map Event.debug

theorem tells_checkEq (operands : Operands) (note : Option String) :
    Tells (fun _ _ => Harness.checkEq operands) note (.ofCheck operands.agree) note
      (checkEvents operands note) := by
  rintro ρ _ h rfl
  rw [run_checkEq_eq, checkEvents, List.map_cons, List.map_map]
  rfl

theorem tells_todoEq (operands : Operands) (note : Option String) :
    Tells (fun _ _ => Harness.todoEq operands) note (.ofTodo operands.agree) note
      (todoEvents operands note) := by
  rintro ρ _ h rfl
  rw [run_todoEq_eq, todoEvents, List.map_cons, List.map_map]
  rfl

/-- The comparison fails where the operands differ, and the todo where they agree. -/
theorem opposed_comparison (operands : Operands) (note : Option String) :
    Opposed (checkEvents operands note) (todoEvents operands note) := by
  cases agree : operands.agree with
  | true =>
      simp only [checkEvents, todoEvents, mismatch, surprise, agree, if_true, List.map_cons,
        List.map_nil]
      exact .right rfl rfl rfl .nil
  | false =>
      simp only [checkEvents, todoEvents, mismatch, surprise, agree, Bool.false_eq_true, if_false,
        List.map_cons, List.map_nil]
      exact .left rfl rfl rfl .nil

/-- The action returns, and all it does under a note is to leave a note and tell events. -/
def Adds (patience : Nat) (op : Op) (note last : Option String) (events : List Event) : Prop :=
  ∃ answer, answer ≠ .waiting ∧ Tells (fun _ _ => op.perform patience) note answer last events

section Adds

variable (patience : Nat) (operands : Operands) (text : String) (note : Option String)

theorem adds_checkEq :
    Adds patience (.checkEq operands) note note (checkEvents operands note) :=
  ⟨.outcome _, nofun, (tells_checkEq operands note).map Answer.outcome⟩

theorem adds_checkEqNoted :
    Adds patience (.checkEqNoted operands text) note (some text)
      (checkEvents operands (some text)) :=
  ⟨.outcome _, nofun, (tells_checkEq operands (some text)).noted.map Answer.outcome⟩

theorem adds_todoEq :
    Adds patience (.todoEq operands) note note (todoEvents operands note) :=
  ⟨.outcome _, nofun, (tells_todoEq operands note).map Answer.outcome⟩

theorem adds_todoEqNoted :
    Adds patience (.todoEqNoted operands text) note (some text)
      (todoEvents operands (some text)) :=
  ⟨.outcome _, nofun, (tells_todoEq operands (some text)).noted.map Answer.outcome⟩

theorem adds_setNote : Adds patience (.setNote text) note (some text) [] :=
  ⟨.done, nofun, fun _ _ _ _ => rfl⟩

end Adds

/-- One step: an action and its dual leave the same note and add events in step. -/
theorem Dual.adds {op op' : Op} (dual : Dual op op') (patience : Nat) (note : Option String) :
    ∃ last events events',
      Adds patience op note last events ∧ Adds patience op' note last events' ∧
      Opposed events events' ∧ Tally.total ⟨events⟩ = if op.isComparison then 1 else 0 := by
  cases dual with
  | checkEq operands =>
      exact ⟨note, _, _, adds_checkEq patience operands note, adds_todoEq patience operands note,
        opposed_comparison operands note, Tally.total_outcome _ _⟩
  | checkEqNoted operands text =>
      exact ⟨some text, _, _, adds_checkEqNoted patience operands text note,
        adds_todoEqNoted patience operands text note,
        opposed_comparison operands (some text), Tally.total_outcome _ _⟩
  | todoEq operands =>
      exact ⟨note, _, _, adds_todoEq patience operands note, adds_checkEq patience operands note,
        (opposed_comparison operands note).symm, Tally.total_outcome _ _⟩
  | todoEqNoted operands text =>
      exact ⟨some text, _, _, adds_todoEqNoted patience operands text note,
        adds_checkEqNoted patience operands text note,
        (opposed_comparison operands (some text)).symm, Tally.total_outcome _ _⟩
  | setNote text =>
      exact ⟨some text, [], [], adds_setNote patience text note,
        adds_setNote patience text note, .nil, rfl⟩

/-! ## Whole runs -/

section Runs

variable {ops ops' : List Op}

/-- A run and its dual leave the same note and tell events in step. -/
theorem run_opposed (dual : List.Forall₂ Dual ops ops') (patience : Nat) (note : Option String) :
    ∃ answers answers' last events events',
      Tells (fun _ _ => run patience ops) note answers last events ∧
      Tells (fun _ _ => run patience ops') note answers' last events' ∧
      Opposed events events' ∧ Tally.total ⟨events⟩ = ops.countP isComparison := by
  induction dual generalizing note with
  | nil =>
      exact ⟨[], [], note, [], [], tells_nil patience note, tells_nil patience note, .nil, rfl⟩
  | @cons op op' ops ops' first _ ih =>
      obtain ⟨between, events, events', ⟨answer, returns, tells⟩, ⟨answer', returns', tells'⟩,
        opposed, one⟩ := first.adds patience note
      obtain ⟨answers, answers', last, later, later', rest, rest', opposedRest, others⟩ :=
        ih between
      refine ⟨answer :: answers, answer' :: answers', last, events ++ later, events' ++ later',
        tells_cons returns tells rest, tells_cons returns' tells' rest',
        opposed.append opposedRest, ?_⟩
      rw [Tally.total_append, one, others, List.countP_cons, Nat.add_comm]

/-- The law of duality.  From any state of a harness, a run of comparisons and its dual leave
the same note and add events as follows, whatever the reporter is.

* Both record once for each comparison, under the same notes in order.
* A record of one is a failure exactly when the record it faces in the other is not.  So the
  failures of both add up to the number of comparisons.
* In each, every failure is explained: there are as many diagnostics as failures, and the
  diagnostics stand right behind the failures, in order. -/
theorem run_dual (dual : List.Forall₂ Dual ops ops') (patience : Nat) (note : Option String) :
    ∃ (answers answers' : List Answer) (last : Option String) (added added' : Tally),
      (Tells (fun _ _ => run patience ops) note answers last added.events ∧
        Tells (fun _ _ => run patience ops') note answers' last added'.events) ∧
      (∀ h : Harness Tally, h.note = note →
        ((run patience ops).run h).harness.reporter.events =
            h.reporter.events ++ added.events ∧
          ((run patience ops').run h).harness.reporter.events =
            h.reporter.events ++ added'.events) ∧
      (added.total = ops.countP isComparison ∧ added'.total = added.total) ∧
      added.records.map Record.note = added'.records.map Record.note ∧
      List.Forall₂ (fun r r' : Record => r.outcome.isFailure = !r'.outcome.isFailure)
        added.records added'.records ∧
      added.failures + added'.failures = ops.countP isComparison ∧
      added.Explained ∧ added'.Explained := by
  obtain ⟨answers, answers', last, events, events', tells, tells', opposed, total⟩ :=
    run_opposed dual patience note
  have faced := opposed.failures_opposite
  refine ⟨answers, answers', last, ⟨events⟩, ⟨events'⟩, ⟨tells, tells'⟩, ?_,
    ⟨total, faced.length_eq.symm⟩, opposed.notes_eq, faced,
    opposed.failures_add.trans total, opposed.explained, opposed.symm.explained⟩
  intro h under
  exact ⟨tells.events_eq under, tells'.events_eq under⟩

end Runs

/-- An absent object, zeros of opposite sign and two patterns that are no number, on a harness
that has told its reporter something before. -/
theorem run_dual_zeros :
    let ops : List Op :=
      [.checkEq (.object (some "null") none), .setNote "zeros",
        .todoEq (.double (.zero .double true) (.zero .double false)),
        .checkEqNoted (.float (.nan .single false) (.nan .single true)) "nan"]
    let ops' : List Op :=
      [.todoEq (.object (some "null") none), .setNote "zeros",
        .checkEq (.double (.zero .double true) (.zero .double false)),
        .todoEqNoted (.float (.nan .single false) (.nan .single true)) "nan"]
    let h : Harness Tally := { reporter := ⟨[.debug "before"]⟩, note := some "start" }
    List.Forall₂ Dual ops ops' ∧
      ∃ added added' : Tally,
        ((run 0 ops).run h).harness.reporter.events = .debug "before" :: added.events ∧
        ((run 0 ops').run h).harness.reporter.events = .debug "before" :: added'.events ∧
        added.failures + added'.failures = 3 ∧ added.Explained ∧ added'.Explained := by
  intro ops ops' h
  have dual : List.Forall₂ Dual ops ops' :=
    .cons (.checkEq _) (.cons (.setNote _) (.cons (.todoEq _) (.cons (.checkEqNoted _ _) .nil)))
  obtain ⟨-, -, -, added, added', -, tallies, -, -, -, failures, explained, explained'⟩ :=
    run_dual dual 0 (some "start")
  obtain ⟨events, events'⟩ := tallies h rfl
  exact ⟨dual, added, added', events, events', failures, explained, explained'⟩

end Op

end CheckHarness
