import CheckHarness.Proofs.Harness.Course

/-!
# Plain values and their dynamic counterparts

Every value of a plain type has a dynamic counterpart.  A truth value or a number is
given its kind.  An object is kept as the text it shows, whatever its type, and the
absent object is the absent value.

Counterparts agree exactly when the values do, and they are rendered alike: that is what
`Mirrors` says of a plain type.  A comparison looks at nothing else, so it makes no
difference whether it compares values or their counterparts.  `run_dynamic` lifts this
to whole runs, in which any of the comparisons may be replaced.
-/

namespace CheckHarness

/-! ## Counterparts of values -/

/-- The dynamic counterpart of an object. -/
def Value.ofObject {α : Type} [Shown α] : Option α → Value
  | none => .absent
  | some x => .showing x

/-- The counterparts of a type's values agree and are rendered as the values are. -/
structure Mirrors {α : Type} [Checkable α] (counterpart : α → Value) : Prop where
  agrees : ∀ a b, agrees (counterpart a) (counterpart b) = agrees a b
  render : ∀ a, render (counterpart a) = render a

theorem mirrors_bool : Mirrors Value.bool := ⟨fun _ _ => rfl, fun _ => rfl⟩

theorem mirrors_int : Mirrors Value.int := ⟨fun _ _ => rfl, fun _ => rfl⟩

theorem mirrors_long : Mirrors Value.long := ⟨fun _ _ => rfl, fun _ => rfl⟩

theorem mirrors_float : Mirrors Value.float := ⟨fun _ _ => rfl, fun _ => rfl⟩

theorem mirrors_double : Mirrors Value.double := ⟨fun _ _ => rfl, fun _ => rfl⟩

theorem mirrors_ofObject {α : Type} [Shown α] : Mirrors (Value.ofObject (α := α)) where
  agrees a b := by
    cases a with
    | none =>
        cases b with
        | none => rfl
        | some y => rfl
    | some x =>
        cases b with
        | none => rfl
        | some y => rfl
  render a := by
    cases a with
    | none => rfl
    | some x => rfl

/-! ## Counterparts of operands -/

/-- The operands have a plain type, and the values are their counterparts. -/
inductive Operands.Counterparts : Operands → Value → Value → Prop where
  | bool (a b : Bool) : Counterparts (.bool a b) (.bool a) (.bool b)
  | int (a b : Int32) : Counterparts (.int a b) (.int a) (.int b)
  | long (a b : Int64) : Counterparts (.long a b) (.long a) (.long b)
  | float (a b : Single) : Counterparts (.float a b) (.float a) (.float b)
  | double (a b : Double) : Counterparts (.double a b) (.double a) (.double b)
  | object {α : Type} [Shown α] (a b : Option α) :
      Counterparts (.ofObjects a b) (.ofObject a) (.ofObject b)

namespace Operands

variable {operands : Operands} {v w : Value}

/-- Operands of a plain type do to a comparison what their counterparts do. -/
theorem Counterparts.dynamic_eq (counterparts : Counterparts operands v w) :
    operands.dynamic = .value v w := by
  cases counterparts with
  | bool a b => rfl
  | int a b => rfl
  | long a b => rfl
  | float a b => rfl
  | double a b => rfl
  | object a b =>
      cases a with
      | none =>
          cases b with
          | none => rfl
          | some y => rfl
      | some x =>
          cases b with
          | none => rfl
          | some y => rfl

end Operands

/-! ## Comparisons -/

section Comparisons

variable {ρ : Type} [Reporter ρ]

namespace Harness

theorem checkEq_dynamic (operands : Operands) :
    (checkEq operands.dynamic : Action ρ Outcome) = checkEq operands := by
  simp only [checkEq, Operands.agree_dynamic, Operands.result_dynamic,
    Operands.expected_dynamic]

theorem todoEq_dynamic (operands : Operands) :
    (todoEq operands.dynamic : Action ρ Outcome) = todoEq operands := by
  simp only [todoEq, Operands.agree_dynamic, Operands.result_dynamic]

end Harness

namespace Op

open Harness Operands

/-- The second action is the first one, or the same comparison of counterparts. -/
inductive Replaced : Op → Op → Prop where
  | kept (op : Op) : Replaced op op
  | checkEq {operands : Operands} {v w : Value} (counterparts : Counterparts operands v w) :
      Replaced (.checkEq operands) (.checkEq (.value v w))
  | checkEqNoted {operands : Operands} {v w : Value} (counterparts : Counterparts operands v w)
      (note : String) : Replaced (.checkEqNoted operands note) (.checkEqNoted (.value v w) note)
  | todoEq {operands : Operands} {v w : Value} (counterparts : Counterparts operands v w) :
      Replaced (.todoEq operands) (.todoEq (.value v w))
  | todoEqNoted {operands : Operands} {v w : Value} (counterparts : Counterparts operands v w)
      (note : String) : Replaced (.todoEqNoted operands note) (.todoEqNoted (.value v w) note)

theorem Replaced.perform_eq {op op' : Op} (replaced : Replaced op op') (patience : Nat) :
    (op'.perform patience : Action ρ Answer) = op.perform patience := by
  cases replaced with
  | kept => rfl
  | checkEq counterparts => simp only [perform, ← counterparts.dynamic_eq, checkEq_dynamic]
  | checkEqNoted counterparts note =>
      simp only [perform, Harness.checkEqNoted, ← counterparts.dynamic_eq, checkEq_dynamic]
  | todoEq counterparts => simp only [perform, ← counterparts.dynamic_eq, todoEq_dynamic]
  | todoEqNoted counterparts note =>
      simp only [perform, Harness.todoEqNoted, ← counterparts.dynamic_eq, todoEq_dynamic]

variable {ops ops' : List Op}

theorem run_of_replaced (replaced : List.Forall₂ Replaced ops ops') (patience : Nat) :
    (run patience ops' : Action ρ (List Answer)) = run patience ops := by
  induction replaced with
  | nil => rfl
  | cons first _ ih => rw [run, run, first.perform_eq, ih]

theorem stages_of_replaced (replaced : List.Forall₂ Replaced ops ops') (patience : Nat)
    (h : Harness ρ) : stages patience ops' h = stages patience ops h := by
  induction replaced generalizing h with
  | nil => rfl
  | cons first _ ih => simp only [stages, first.perform_eq, ih]

end Op

end Comparisons

/-! ## Whole runs -/

namespace Op

/-- The law of dynamic checks.  The counterparts of the values of every plain type agree
and are rendered as the values are.  So a run does not change when comparisons are
replaced by those of counterparts: every action leaves the same answer, the same note and
the same reporter behind. -/
theorem run_dynamic :
    (Mirrors Value.bool ∧ Mirrors Value.int ∧ Mirrors Value.long ∧ Mirrors Value.float ∧
        Mirrors Value.double ∧
        ∀ (α : Type) [Shown α], Mirrors (Value.ofObject : Option α → Value)) ∧
      ∀ (ρ : Type) [Reporter ρ] (patience : Nat) (ops ops' : List Op) (h : Harness ρ),
        List.Forall₂ Replaced ops ops' →
        (run patience ops').run h = (run patience ops).run h ∧
          stages patience ops' h = stages patience ops h := by
  refine ⟨⟨mirrors_bool, mirrors_int, mirrors_long, mirrors_float, mirrors_double,
    fun _ _ => mirrors_ofObject⟩, ?_⟩
  intro ρ _ patience ops ops' h replaced
  exact ⟨by rw [run_of_replaced replaced], stages_of_replaced replaced patience h⟩

/-- An object that shows the word for absence is not the absent one, and two patterns that
are no number agree, by their counterparts too. -/
theorem run_dynamic_nan :
    let ops : List Op :=
      [.checkEqNoted (.ofObjects (some "null") none) "absence",
        .todoEq (.double (.nan .double false) (.nan .double true))]
    let ops' : List Op :=
      [.checkEqNoted (.value (.showing "null") .absent) "absence",
        .todoEq (.value (.double (.nan .double false)) (.double (.nan .double true)))]
    List.Forall₂ Replaced ops ops' ∧
      ((run 0 ops').run (Harness.new 100)).harness.reporter.events =
        [.outcome ⟨.fail, some "absence"⟩, .debug "got (null), expected (null)",
          .outcome ⟨.todoPass, some "absence"⟩, .debug "got (NaN)"] := by
  intro ops ops'
  have replaced : List.Forall₂ Replaced ops ops' :=
    .cons (.checkEqNoted (.object (some "null") none) "absence")
      (.cons (.todoEq (.double _ _)) .nil)
  refine ⟨replaced, ?_⟩
  rw [(run_dynamic.2 Tally 0 ops ops' (Harness.new 100) replaced).1]
  decide

end Op

end CheckHarness
