import CheckHarness.Proofs.Harness.Trace

/-!
# What runs do whatever the reporter is

The harness hands every event to its reporter and never looks at it.  So an action
takes the same *course* over every reporter: it gives the same value, leaves the same
note and the same interrupt, makes the same calls and emits the same.  Only what becomes
of the emissions is up to the reporter.

An action is *uniform* when it has such a course from every state of a harness.  The
parts that actions are made of are uniform, and one uniform action after another is
uniform (`Uniform.bind`).  So every action of the harness is (`uniform_perform`).

`Op.stages` is a run step by step.  `Op.exists_courses` says that the stages of a run
are the courses of its actions, which are found before any reporter is chosen.
-/

namespace CheckHarness

open Reporter

/-- Emissions are received in order. -/
theorem Reporter.receive_append {ρ : Type} [Reporter ρ] (reporter : ρ)
    (first second : List Emission) :
    receive reporter (first ++ second) =
      ((receive (receive reporter first).1 second).1,
        (receive reporter first).2 ++ (receive (receive reporter first).1 second).2) := by
  induction first generalizing reporter with
  | nil => rfl
  | cons emission rest ih =>
      cases emission with
      | wrote line => simp [ih]
      | told event => simp [ih]

/-! ## Courses -/

/-- What an action does on a harness whose reporter is left open. -/
structure Course (α : Type) where
  value : α
  /-- The note afterwards. -/
  note : Option String
  /-- The flag afterwards. -/
  interrupt : Interrupt
  emissions : List Emission := []
  calls : List Call := []

/-- What an action with a course leaves behind over a reporter. -/
def Course.toDone {ρ α : Type} [Reporter ρ] (course : Course α) (pollMillis : Nat)
    (reporter : ρ) : Done ρ α where
  value := course.value
  harness :=
    { reporter := (receive reporter course.emissions).1
      note := course.note
      pollMillis
      interrupt := course.interrupt }
  log := (receive reporter course.emissions).2
  calls := course.calls

/-- The action takes one course over all reporters. -/
def Uniform {α : Type} (action : ∀ (ρ : Type) [Reporter ρ], Action ρ α) : Prop :=
  ∀ (note : Option String) (pollMillis : Nat) (interrupt : Interrupt),
    ∃ course : Course α, ∀ (ρ : Type) [Reporter ρ] (reporter : ρ),
      (action ρ).run { reporter, note, pollMillis, interrupt } = course.toDone pollMillis reporter

namespace Uniform

open CheckHarness.Action

variable {α β : Type}

theorem pure (value : α) : Uniform fun _ _ => Pure.pure value := by
  intro note pollMillis interrupt
  exact ⟨{ value, note, interrupt }, fun _ _ _ => rfl⟩

/-- One uniform action after another. -/
theorem bind {first : ∀ (ρ : Type) [Reporter ρ], Action ρ α}
    {next : ∀ (ρ : Type) [Reporter ρ], α → Action ρ β} (uniform : Uniform first)
    (uniforms : ∀ value, Uniform fun ρ _ => next ρ value) :
    Uniform fun ρ _ => first ρ >>= next ρ := by
  intro note pollMillis interrupt
  obtain ⟨one, ran⟩ := uniform note pollMillis interrupt
  obtain ⟨two, ran'⟩ := uniforms one.value one.note pollMillis one.interrupt
  refine ⟨{ two with
    emissions := one.emissions ++ two.emissions, calls := one.calls ++ two.calls }, ?_⟩
  intro ρ _ reporter
  rw [run_bind, ran ρ reporter]
  dsimp only [Course.toDone]
  rw [ran' ρ (receive reporter one.emissions).1, receive_append]
  rfl

theorem map {action : ∀ (ρ : Type) [Reporter ρ], Action ρ α} (f : α → β)
    (uniform : Uniform action) : Uniform fun ρ _ => f <$> action ρ := by
  intro note pollMillis interrupt
  obtain ⟨course, ran⟩ := uniform note pollMillis interrupt
  refine ⟨{ course with value := f course.value }, ?_⟩
  intro ρ _ reporter
  rw [run_map, ran ρ reporter]
  rfl

theorem ite {yes no : ∀ (ρ : Type) [Reporter ρ], Action ρ α} (condition : Prop)
    [Decidable condition] (uniform : Uniform yes) (uniform' : Uniform no) :
    Uniform fun ρ _ => if condition then yes ρ else no ρ := by
  by_cases holds : condition
  · simpa only [if_pos holds] using uniform
  · simpa only [if_neg holds] using uniform'

theorem tell (event : Event) : Uniform fun _ _ => Action.tell event := by
  intro note pollMillis interrupt
  refine ⟨{ value := (), note, interrupt, emissions := [.told event] }, ?_⟩
  intro ρ _ reporter
  simp [Course.toDone]

theorem log (source : Log.Source) (level : Log.Level) (message : String) :
    Uniform fun _ _ => Action.log source level message := by
  intro note pollMillis interrupt
  exact ⟨{ value := (), note, interrupt, emissions := [.wrote ⟨source, level, message⟩] },
    fun _ _ _ => rfl⟩

theorem call (c : Call) : Uniform fun _ _ => Action.call c := by
  intro note pollMillis interrupt
  exact ⟨{ value := (), note, interrupt, calls := [c] }, fun _ _ _ => rfl⟩

theorem lookNote : Uniform fun _ _ => look (·.note) := by
  intro note pollMillis interrupt
  exact ⟨{ value := note, note, interrupt }, fun _ _ _ => rfl⟩

theorem lookInterrupt : Uniform fun _ _ => look (·.interrupt) := by
  intro note pollMillis interrupt
  exact ⟨{ value := interrupt, note, interrupt }, fun _ _ _ => rfl⟩

theorem changeInterrupt (f : Interrupt → Interrupt) :
    Uniform fun _ _ => change fun h => { h with interrupt := f h.interrupt } := by
  intro note pollMillis interrupt
  exact ⟨{ value := (), note, interrupt := f interrupt }, fun _ _ _ => rfl⟩

end Uniform

/-! ## The actions of a harness -/

namespace Harness

theorem uniform_setNote (note : String) : Uniform fun _ _ => setNote note := by
  intro _ pollMillis interrupt
  exact ⟨{ value := (), note := some note, interrupt }, fun _ _ _ => rfl⟩

theorem uniform_record (outcome : Outcome) : Uniform fun _ _ => record outcome :=
  Uniform.lookNote.bind fun _ => (Uniform.tell _).bind fun _ => .pure outcome

theorem uniform_checkNoted (ok : Bool) (note : String) : Uniform fun _ _ => checkNoted ok note :=
  (uniform_setNote note).bind fun _ => uniform_record _

theorem uniform_checkEq (operands : Operands) : Uniform fun _ _ => checkEq operands :=
  (uniform_record _).bind fun outcome =>
    .ite _ (.pure outcome) ((Uniform.tell _).bind fun _ => .pure outcome)

theorem uniform_todoEq (operands : Operands) : Uniform fun _ _ => todoEq operands :=
  (uniform_record _).bind fun outcome =>
    .ite _ ((Uniform.tell _).bind fun _ => .pure outcome) (.pure outcome)

theorem uniform_failNoted (note : String) : Uniform fun _ _ => failNoted note :=
  (Uniform.log _ _ _).bind fun _ => uniform_checkNoted false note

theorem uniform_compareVisual (pixels : PixelCounter) (reference : String) (limit : Int32)
    (message : String) : Uniform fun _ _ => compareVisual pixels reference limit message :=
  (Uniform.call _).bind fun _ => (Uniform.log _ _ _).bind fun _ => uniform_checkNoted _ _

/-- The polls of a wait see the flag, and no reporter. -/
theorem uniform_poll (screen : Screen) (target : String) (patience polls : Nat)
    (before : List Call) : Uniform fun _ _ => poll screen target patience polls before := by
  induction patience generalizing polls before with
  | zero => exact .pure Wait.waiting
  | succ patience ih =>
      have raise := Uniform.changeInterrupt Interrupt.raise
      have slept := Uniform.lookInterrupt.bind fun flag =>
        (Uniform.changeInterrupt fun _ => flag.sleep.2).bind fun _ =>
          .ite (flag.sleep.1 = true) (.pure (Wait.interrupted polls))
            (ih (polls + 1) (before ++ [.isDisplayed target]))
      have hidden := Uniform.ite ((screen (before ++ [.isDisplayed target])).wakes = true)
        (raise.bind fun _ => slept) slept
      have looked := Uniform.ite ((screen (before ++ [.isDisplayed target])).shown = true)
        (.pure (Wait.shown polls)) hidden
      exact (Uniform.call _).bind fun _ => .ite _ (raise.bind fun _ => looked) looked

theorem uniform_awaitVisible (patience : Nat) (screen : Screen) (target : String) :
    Uniform fun _ _ => awaitVisible patience screen target := by
  have polled := uniform_poll screen target patience 0 [.setCurrent target]
  refine (Uniform.call _).bind fun _ => polled.bind fun wait => ?_
  cases wait with
  | shown polls => exact (Uniform.log _ _ _).bind fun _ => .pure (some true)
  | interrupted polls =>
      exact (Uniform.log _ _ _).bind fun _ =>
        (uniform_failNoted interruptedNote).bind fun _ => .pure (some false)
  | waiting => exact .pure none

end Harness

namespace Op

open Harness

/-- Every action takes one course over all reporters. -/
theorem uniform_perform (patience : Nat) (op : Op) : Uniform fun _ _ => op.perform patience := by
  cases op with
  | check ok => exact (uniform_record _).map _
  | checkNoted ok note => exact (uniform_checkNoted ok note).map _
  | checkEq operands => exact (uniform_checkEq operands).map _
  | checkEqNoted operands note =>
      exact ((uniform_setNote note).bind fun _ => uniform_checkEq operands).map _
  | todo ok => exact (uniform_todoEq _).map _
  | todoNoted ok note => exact ((uniform_setNote note).bind fun _ => uniform_todoEq _).map _
  | todoEq operands => exact (uniform_todoEq operands).map _
  | todoEqNoted operands note =>
      exact ((uniform_setNote note).bind fun _ => uniform_todoEq operands).map _
  | pass => exact (uniform_record _).map _
  | passNoted note => exact (uniform_checkNoted true note).map _
  | fail => exact (uniform_record _).map _
  | failNoted note => exact (uniform_failNoted note).map _
  | setNote note => exact (uniform_setNote note).bind fun _ => .pure Answer.done
  | checkpoint note => exact (uniform_setNote note).bind fun _ => .pure Answer.done
  | debug message => exact (Uniform.tell _).bind fun _ => .pure Answer.done
  | record outcome note => exact (Uniform.tell _).bind fun _ => .pure Answer.done
  | compareVisual pixels reference limit message =>
      exact (uniform_compareVisual pixels reference limit message).map _
  | awaitVisible screen target =>
      refine (uniform_awaitVisible patience screen target).bind fun visible => ?_
      cases visible with
      | some shown => exact .pure (Answer.visible shown)
      | none => exact .pure Answer.waiting
  | interrupt => exact (Uniform.changeInterrupt _).bind fun _ => .pure Answer.done
  | sleep millis =>
      exact Uniform.lookInterrupt.bind fun flag =>
        (Uniform.changeInterrupt fun _ => flag.sleep.2).bind fun _ =>
          .pure (Answer.slept flag.sleep.1)

/-! ## Runs by their stages -/

section Stages

variable {ρ : Type} [Reporter ρ]

/-- What each action of a run leaves behind. -/
def stages (patience : Nat) : List Op → Harness ρ → List (Done ρ Answer)
  | [], _ => []
  | op :: ops, h =>
    let done := (op.perform patience).run h
    if done.value = .waiting then [done] else done :: stages patience ops done.harness

/-- A run is put together from its stages. -/
theorem run_eq_stages (patience : Nat) (ops : List Op) (h : Harness ρ) :
    (run patience ops).run h =
      { value := (stages patience ops h).map (·.value)
        harness := ((stages patience ops h).getLast?.map (·.harness)).getD h
        log := (stages patience ops h).flatMap (·.log)
        calls := (stages patience ops h).flatMap (·.calls) } := by
  induction ops generalizing h with
  | nil => rfl
  | cons op ops ih =>
      by_cases waits : ((op.perform patience).run h).value = .waiting
      · rw [run_cons_waiting patience op ops h waits]
        simp [stages, waits]
      · rw [run_cons patience op ops h waits]
        have last : ∀ (done : Done ρ Answer) (later : List (Done ρ Answer)),
            ((done :: later).getLast?.map (·.harness)).getD h =
              (later.getLast?.map (·.harness)).getD done.harness := by
          intro done later
          rw [List.getLast?_cons]
          cases later.getLast? with
          | none => rfl
          | some _ => rfl
        simp only [ih, stages, waits, if_false, last, List.map_cons, List.flatMap_cons]

/-- The stages of a run whose actions take the given courses. -/
def replay (pollMillis : Nat) : List (Course Answer) → ρ → List (Done ρ Answer)
  | [], _ => []
  | course :: courses, reporter =>
    let done := course.toDone pollMillis reporter
    done :: replay pollMillis courses done.harness.reporter

theorem map_value_replay (pollMillis : Nat) (courses : List (Course Answer)) (reporter : ρ) :
    (replay pollMillis courses reporter).map (·.value) = courses.map (·.value) := by
  induction courses generalizing reporter with
  | nil => rfl
  | cons course courses ih => exact congrArg (course.value :: ·) (ih _)

theorem map_note_replay (pollMillis : Nat) (courses : List (Course Answer)) (reporter : ρ) :
    (replay pollMillis courses reporter).map (·.harness.note) = courses.map (·.note) := by
  induction courses generalizing reporter with
  | nil => rfl
  | cons course courses ih => exact congrArg (course.note :: ·) (ih _)

/-- The reporter is told what the courses emit, one course after the other. -/
theorem receive_replay (pollMillis : Nat) (courses : List (Course Answer)) (reporter : ρ) :
    receive reporter (courses.flatMap (·.emissions)) =
      (((replay pollMillis courses reporter).getLast?.map (·.harness.reporter)).getD reporter,
        (replay pollMillis courses reporter).flatMap (·.log)) := by
  induction courses generalizing reporter with
  | nil => rfl
  | cons course courses ih =>
      rw [List.flatMap_cons, receive_append, ih]
      simp only [replay, List.getLast?_cons, List.flatMap_cons, Course.toDone]
      cases (replay pollMillis courses (receive reporter course.emissions).1).getLast? with
      | none => rfl
      | some _ => rfl

end Stages

/-- The stages of a run are the courses of its actions, over every reporter. -/
theorem exists_courses (patience : Nat) (ops : List Op) (note : Option String) (pollMillis : Nat)
    (interrupt : Interrupt) :
    ∃ courses : List (Course Answer), ∀ (ρ : Type) [Reporter ρ] (reporter : ρ),
      stages patience ops { reporter, note, pollMillis, interrupt } =
        replay pollMillis courses reporter := by
  induction ops generalizing note interrupt with
  | nil => exact ⟨[], fun _ _ _ => rfl⟩
  | cons op ops ih =>
      obtain ⟨course, ran⟩ := uniform_perform patience op note pollMillis interrupt
      by_cases waits : course.value = .waiting
      · refine ⟨[course], ?_⟩
        intro ρ _ reporter
        have ends : (course.toDone pollMillis reporter).value = .waiting := waits
        simp only [stages, ran, ends, if_true]
        rfl
      · obtain ⟨courses, rest⟩ := ih course.note course.interrupt
        refine ⟨course :: courses, ?_⟩
        intro ρ _ reporter
        have goes : (course.toDone pollMillis reporter).value ≠ .waiting := waits
        simp only [stages, ran, goes, if_false]
        exact congrArg (course.toDone pollMillis reporter :: ·) (rest ρ _)

end Op

end CheckHarness
