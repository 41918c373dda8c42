import CheckHarness.Proofs.Binary.Notation
import CheckHarness.Proofs.Harness.Course

/-!
# Primitives wrapped as objects

Objects are compared by the texts they show.  A primitive that is wrapped as an object
shows its plain text, so wrapping replaces a comparison of values by one of texts.  The
verdict stays: truth values and integers have texts of their own, and floating-point
numbers are written alike exactly when they agree (`agreesWrapped_binary`).

A comparison may show other texts in its diagnostics when its operands are wrapped.  The
outcome it records is the same, and `run_wrapped` lifts this to whole runs.
-/

namespace CheckHarness

/-! ## Plain texts tell values apart -/

/-- Values of a type agree as objects exactly when they agree. -/
def AgreesWrapped (α : Type) [Shown α] [Checkable α] : Prop :=
  ∀ x y : α, agrees (some x) (some y) = agrees x y

/-- It is enough that the texts of values are equal when the values agree. -/
theorem agreesWrapped_of_shown {α : Type} [Shown α] [Checkable α]
    (texts : ∀ x y : α, shown x = shown y ↔ agrees x y = true) : AgreesWrapped α := by
  intro x y
  have objects : agrees (some x) (some y) = (shown x == shown y) := rfl
  rw [objects, Bool.eq_iff_iff, beq_iff_eq]
  exact texts x y

theorem agreesWrapped_bool : AgreesWrapped Bool := by
  refine agreesWrapped_of_shown fun x y => ?_
  cases x <;> cases y <;> decide

/-- Integers are read back, so their texts are different. -/
theorem integer_repr_inj {m n : Int} : m.repr = n.repr ↔ m = n := by
  refine ⟨fun alike => ?_, congrArg Int.repr⟩
  have read := integerOfText?_toString m
  rw [Int.toString_eq_repr, alike, ← Int.toString_eq_repr, integerOfText?_toString] at read
  exact (Option.some.inj read).symm

theorem agreesWrapped_int : AgreesWrapped Int32 := by
  refine agreesWrapped_of_shown fun x y => ?_
  exact (integer_repr_inj.trans Int32.toInt_inj).trans beq_iff_eq.symm

theorem agreesWrapped_long : AgreesWrapped Int64 := by
  refine agreesWrapped_of_shown fun x y => ?_
  exact (integer_repr_inj.trans Int64.toInt_inj).trans beq_iff_eq.symm

/-- The plain form keeps the sign of zero, and is one for all that are no number. -/
theorem agreesWrapped_binary {f : Format} (proper : f.Proper) : AgreesWrapped (Binary f) :=
  agreesWrapped_of_shown (Binary.writeWith_eq_iff Decimal.spells_plain proper)

/-! ## Operands -/

namespace Operands

/-- The operands with primitives wrapped as objects. -/
def wrapped : Operands → Operands
  | .bool result expected => ofObjects (some result) (some expected)
  | .int result expected => ofObjects (some result) (some expected)
  | .long result expected => ofObjects (some result) (some expected)
  | .float result expected => ofObjects (some result) (some expected)
  | .double result expected => ofObjects (some result) (some expected)
  | .object result expected => .object result expected
  | .value result expected => .value result expected

theorem agree_wrapped (operands : Operands) : operands.wrapped.agree = operands.agree := by
  cases operands with
  | bool x y => exact agreesWrapped_bool x y
  | int x y => exact agreesWrapped_int x y
  | long x y => exact agreesWrapped_long x y
  | float x y => exact agreesWrapped_binary Format.proper_single x y
  | double x y => exact agreesWrapped_binary Format.proper_double x y
  | object x y => rfl
  | value x y => rfl

end Operands

/-! ## Comparisons -/

namespace Harness

/-- Two actions record the same outcome, and nothing else but diagnostics. -/
def RecordsAlike {ρ : Type} [Reporter ρ] (first second : Action ρ Outcome) (h : Harness ρ) :
    Prop :=
  ∃ (outcome : Outcome) (messages messages' : List String),
    first.run h = h.emit outcome
      (.told (.outcome ⟨outcome, h.note⟩) :: messages.map fun m => .told (.debug m)) ∧
    second.run h = h.emit outcome
      (.told (.outcome ⟨outcome, h.note⟩) :: messages'.map fun m => .told (.debug m))

section Comparisons

variable {ρ : Type} [Reporter ρ]

/-- What a comparison says when it fails. -/
def mismatch (operands : Operands) : List String :=
  if operands.agree then []
  else ["got (" ++ operands.result ++ "), expected (" ++ operands.expected ++ ")"]

theorem run_checkEq_eq (operands : Operands) (h : Harness ρ) :
    (checkEq operands).run h =
      h.emit (.ofCheck operands.agree)
        (.told (.outcome ⟨.ofCheck operands.agree, h.note⟩) ::
          (mismatch operands).map fun m => .told (.debug m)) := by
  rw [run_checkEq, mismatch]
  split <;> rfl

/-- What a todo says when it holds. -/
def surprise (operands : Operands) : List String :=
  if operands.agree then ["got (" ++ operands.result ++ ")"] else []

theorem run_todoEq_eq (operands : Operands) (h : Harness ρ) :
    (todoEq operands).run h =
      h.emit (.ofTodo operands.agree)
        (.told (.outcome ⟨.ofTodo operands.agree, h.note⟩) ::
          (surprise operands).map fun m => .told (.debug m)) := by
  rw [run_todoEq, surprise]
  split <;> rfl

theorem recordsAlike_checkEq (operands : Operands) (h : Harness ρ) :
    RecordsAlike (checkEq operands.wrapped) (checkEq operands) h := by
  have wrapped := run_checkEq_eq operands.wrapped h
  rw [operands.agree_wrapped] at wrapped
  exact ⟨_, _, _, wrapped, run_checkEq_eq operands h⟩

theorem recordsAlike_todoEq (operands : Operands) (h : Harness ρ) :
    RecordsAlike (todoEq operands.wrapped) (todoEq operands) h := by
  have wrapped := run_todoEq_eq operands.wrapped h
  rw [operands.agree_wrapped] at wrapped
  exact ⟨_, _, _, wrapped, run_todoEq_eq operands h⟩

end Comparisons

end Harness

/-! ## Runs with the same records -/

/-- Over tallies, the harnesses differ in diagnostics only. -/
structure Harness.SameRecords (h h' : Harness Tally) : Prop where
  records : h.reporter.records = h'.reporter.records
  note : h.note = h'.note
  pollMillis : h.pollMillis = h'.pollMillis
  interrupt : h.interrupt = h'.interrupt

/-- Two actions give the same value and leave the same records. -/
structure Done.Alike {α : Type} (done done' : Done Tally α) : Prop where
  value : done.value = done'.value
  harness : done.harness.SameRecords done'.harness

theorem Tally.records_receive (tally : Tally) (emissions : List Emission) :
    (Reporter.receive tally emissions).1.records =
      tally.records ++ (emissions.filterMap Emission.event?).filterMap Event.record? := by
  rw [Reporter.receive_tally, Tally.records, List.filterMap_append]
  rfl

namespace Done.Alike

variable {α β : Type} {done done' done'' : Done Tally α}

theorem refl (done : Done Tally α) : done.Alike done := ⟨rfl, rfl, rfl, rfl, rfl⟩

theorem trans (alike : done.Alike done') (alike' : done'.Alike done'') : done.Alike done'' where
  value := alike.value.trans alike'.value
  harness :=
    { records := alike.harness.records.trans alike'.harness.records
      note := alike.harness.note.trans alike'.harness.note
      pollMillis := alike.harness.pollMillis.trans alike'.harness.pollMillis
      interrupt := alike.harness.interrupt.trans alike'.harness.interrupt }

theorem map {first second : Action Tally α} {h h' : Harness Tally} (f : α → β)
    (alike : (first.run h).Alike (second.run h')) :
    ((f <$> first).run h).Alike ((f <$> second).run h') where
  value := congrArg f alike.value
  harness := alike.harness

/-- What a course leaves behind over tallies with the same records. -/
theorem of_course (course : Course α) (pollMillis : Nat) {tally tally' : Tally}
    (same : tally.records = tally'.records) :
    (course.toDone pollMillis tally).Alike (course.toDone pollMillis tally') where
  value := rfl
  harness :=
    { records := by simp only [Course.toDone, Tally.records_receive, same]
      note := rfl
      pollMillis := rfl
      interrupt := rfl }

end Done.Alike

namespace Harness

theorem RecordsAlike.alike {first second : Action Tally Outcome} {h : Harness Tally}
    (records : RecordsAlike first second h) : (first.run h).Alike (second.run h) := by
  obtain ⟨outcome, messages, messages', one, two⟩ := records
  have quiet (messages : List String) :
      ((messages.map fun m => Emission.told (.debug m)).filterMap Emission.event?).filterMap
        Event.record? = [] := by
    induction messages with
    | nil => rfl
    | cons m messages ih => exact ih
  rw [one, two]
  refine ⟨rfl, ?_, rfl, rfl, rfl⟩
  simp only [emit_harness, Tally.records_receive, List.filterMap_cons, Emission.event?,
    Event.record?, quiet]

end Harness

namespace Op

open Harness

/-- The action with the primitives it compares wrapped as objects. -/
def wrapped : Op → Op
  | .checkEq operands => .checkEq operands.wrapped
  | .checkEqNoted operands note => .checkEqNoted operands.wrapped note
  | .todoEq operands => .todoEq operands.wrapped
  | .todoEqNoted operands note => .todoEqNoted operands.wrapped note
  | op => op

theorem alike_wrapped (patience : Nat) (op : Op) (h : Harness Tally) :
    ((op.wrapped.perform patience).run h).Alike ((op.perform patience).run h) := by
  cases op with
  | checkEq operands => exact (recordsAlike_checkEq operands h).alike.map Answer.outcome
  | todoEq operands => exact (recordsAlike_todoEq operands h).alike.map Answer.outcome
  | checkEqNoted operands note =>
      refine Done.Alike.map Answer.outcome ?_
      rw [run_checkEqNoted, run_checkEqNoted]
      exact (recordsAlike_checkEq operands _).alike
  | todoEqNoted operands note =>
      refine Done.Alike.map Answer.outcome ?_
      rw [run_todoEqNoted, run_todoEqNoted]
      exact (recordsAlike_todoEq operands _).alike
  | _ => exact .refl _

/-- An action does not look at the reporter, so the records stay the same. -/
theorem alike_perform (patience : Nat) (op : Op) {h h' : Harness Tally}
    (same : h.SameRecords h') :
    ((op.perform patience).run h).Alike ((op.perform patience).run h') := by
  obtain ⟨tally, note, pollMillis, interrupt⟩ := h
  obtain ⟨tally', note', pollMillis', interrupt'⟩ := h'
  obtain ⟨records, rfl, rfl, rfl⟩ := same
  obtain ⟨course, ran⟩ := uniform_perform patience op note pollMillis interrupt
  rw [ran Tally tally, ran Tally tally']
  exact .of_course course pollMillis records

/-- One step: a wrapped action and the action itself, on harnesses with the same records. -/
theorem alike_step (patience : Nat) (op : Op) {h h' : Harness Tally} (same : h.SameRecords h') :
    ((op.wrapped.perform patience).run h).Alike ((op.perform patience).run h') :=
  (op.alike_wrapped patience h).trans (op.alike_perform patience same)

/-- Step by step a run with wrapped actions leaves the same records. -/
theorem alike_run (patience : Nat) (ops : List Op) {h h' : Harness Tally}
    (same : h.SameRecords h') :
    ((run patience (ops.map wrapped)).run h).Alike ((run patience ops).run h') := by
  induction ops generalizing h h' with
  | nil => exact ⟨rfl, same⟩
  | cons op ops ih =>
      have step := op.alike_step patience same
      rw [List.map_cons]
      by_cases waits : ((op.perform patience).run h').value = .waiting
      · rw [run_cons_waiting patience op ops h' waits,
          run_cons_waiting patience op.wrapped _ h (step.value.trans waits)]
        exact ⟨rfl, step.harness⟩
      · rw [run_cons patience op ops h' waits,
          run_cons patience op.wrapped _ h (step.value ▸ waits)]
        have rest := ih step.harness
        exact ⟨List.cons_eq_cons.mpr ⟨step.value, rest.value⟩, rest.harness⟩

/-- The law of wrapped primitives.  The values of a primitive type agree as objects exactly
when they agree.  So a comparison of primitives records the same outcome when they are
wrapped, whatever the reporter is, and a run gives the same answers and leaves the same
records when all of its comparisons are wrapped. -/
theorem run_wrapped :
    (AgreesWrapped Bool ∧ AgreesWrapped Int32 ∧ AgreesWrapped Int64 ∧ AgreesWrapped Single ∧
        AgreesWrapped Double) ∧
      (∀ (ρ : Type) [Reporter ρ] (operands : Operands) (h : Harness ρ),
        RecordsAlike (Harness.checkEq operands.wrapped) (Harness.checkEq operands) h ∧
          RecordsAlike (Harness.todoEq operands.wrapped) (Harness.todoEq operands) h) ∧
      ∀ (patience : Nat) (ops : List Op) (h : Harness Tally),
        ((run patience (ops.map wrapped)).run h).value = ((run patience ops).run h).value ∧
          ((run patience (ops.map wrapped)).run h).harness.reporter.records =
            ((run patience ops).run h).harness.reporter.records := by
  refine ⟨⟨agreesWrapped_bool, agreesWrapped_int, agreesWrapped_long,
    agreesWrapped_binary Format.proper_single, agreesWrapped_binary Format.proper_double⟩,
    ?_, ?_⟩
  · intro ρ _ operands h
    exact ⟨recordsAlike_checkEq operands h, recordsAlike_todoEq operands h⟩
  · intro patience ops h
    have alike := alike_run patience ops (h := h) ⟨rfl, rfl, rfl, rfl⟩
    exact ⟨alike.value, alike.harness.records⟩

end Op

end CheckHarness
