import CheckHarness.Interrupt.Threads
import CheckHarness.Proofs.Interrupt.Since

/-!
# No interrupt is lost

Threads that interrupt and threads that sleep share one flag, and their steps may come in
any order.  What holds in every state that a run can reach is split into four invariants,
each kept by every step.

* The flag is set exactly when an interrupt has set it and no sleep has noticed since.
* Sleeps notice no more often than interrupts set the flag, and one interrupt less while
  the flag is set.
* The deadline of a sleep is its start and its length.
* While the flag is set and a thread waits without being notified, some thread still owes
  a notification.

The last one needs the order of things.  A thread starts to wait only when its look finds
the flag cleared, so the flag was set later, and who sets it owes a notification.  That
notification reaches every thread that waits.

`wakeup_law` puts the invariants together.
-/

namespace CheckHarness

/-! ## Phases -/

namespace Phase

@[simp] theorem deadline?_notify (phase : Phase) : phase.notify.deadline? = phase.deadline? := by
  cases phase with
  | free => rfl
  | notifying => rfl
  | looking deadline => rfl
  | waiting deadline notified => rfl

/-- Nobody is missed by a notification. -/
theorem notify_ne_waiting (phase : Phase) (deadline : Nat) :
    phase.notify ≠ .waiting deadline false := by
  cases phase with
  | free => simp [notify]
  | notifying => simp [notify]
  | looking deadline => simp [notify]
  | waiting deadline notified => simp [notify]

end Phase

namespace Threads

variable {τ : Type}

/-! ## Acts -/

namespace Act

/-- The act sets the flag. -/
def sets : Act τ → Bool
  | .set _ => true
  | _ => false

/-- The act is a look that notices an interrupt. -/
def notices : Act τ → Bool
  | .look _ .interrupted => true
  | _ => false

/-- The time that passes in an act. -/
def time : Act τ → Nat
  | .pass time => time
  | _ => 0

theorem notices_of_sets {act : Act τ} (sets : act.sets = true) : act.notices = false := by
  cases act with
  | set thread => rfl
  | notify thread => cases sets
  | sleep thread length => cases sets
  | look thread sight => cases sets
  | leave thread cause => cases sets
  | pass time => cases sets

end Act

/-- The time that passes in some acts. -/
def elapsed : List (Act τ) → Nat
  | [] => 0
  | act :: acts => act.time + elapsed acts

/-- The flag was set, and no sleep has noticed since. -/
def SetSince (acts : List (Act τ)) : Prop :=
  ∃ before act after, acts = before ++ act :: after ∧ act.sets = true ∧
    ∀ later ∈ after, later.notices = false

/-- The last sleep that a thread has started is over at a deadline. -/
def SleepsUntil (acts : List (Act τ)) (thread : τ) (deadline : Nat) : Prop :=
  ∃ before length after, acts = before ++ .sleep thread length :: after ∧
    (∀ other, .sleep thread other ∉ after) ∧ deadline = elapsed before + length

theorem elapsed_append (acts : List (Act τ)) (act : Act τ) :
    elapsed (acts ++ [act]) = elapsed acts + act.time := by
  induction acts with
  | nil => exact Nat.add_comm _ _
  | cons first acts ih => rw [List.cons_append, elapsed, ih, elapsed, Nat.add_assoc]

theorem setSince_iff_since (acts : List (Act τ)) :
    SetSince acts ↔ Since (fun act => act.sets = true) (fun act => act.notices = true) acts := by
  simp [SetSince, Since]

theorem not_setSince_nil : ¬SetSince ([] : List (Act τ)) := by
  rw [setSince_iff_since]
  exact not_since_nil

/-- The last act decides, unless it does nothing to the flag. -/
theorem setSince_append (acts : List (Act τ)) (act : Act τ) :
    SetSince (acts ++ [act]) ↔ act.sets = true ∨ SetSince acts ∧ act.notices = false := by
  rw [setSince_iff_since, setSince_iff_since, since_append, Bool.not_eq_true]

/-- A sleep goes on while its thread starts no other one. -/
theorem SleepsUntil.append {acts : List (Act τ)} {thread : τ} {deadline : Nat}
    (sleeps : SleepsUntil acts thread deadline) {act : Act τ}
    (other : ∀ length, act ≠ .sleep thread length) :
    SleepsUntil (acts ++ [act]) thread deadline := by
  obtain ⟨before, length, after, rfl, last, until_⟩ := sleeps
  refine ⟨before, length, after ++ [act], by simp, ?_, until_⟩
  intro length' mem
  rcases List.mem_append.mp mem with mem | mem
  · exact last length' mem
  · exact other length' (List.mem_singleton.mp mem).symm

/-! ## Looks -/

/-- A thread that is still in its sleep after a look keeps its deadline. -/
theorem Sight.deadline?_next {sight : Sight} {deadline deadline' : Nat}
    (asleep : (sight.next deadline).deadline? = some deadline') :
    some deadline = some deadline' := by
  cases sight with
  | interrupted => cases asleep
  | elapsed => cases asleep
  | waits => exact asleep

section Looks

variable {s : Threads τ} {deadline : Nat}

theorem sight_eq_interrupted_iff : s.sight deadline = .interrupted ↔ s.flag.pending = true := by
  grind [sight, Interrupt.sleep]

theorem sight_eq_elapsed_iff :
    s.sight deadline = .elapsed ↔ s.flag.pending = false ∧ deadline ≤ s.clock := by
  grind [sight, Interrupt.sleep]

theorem sight_eq_waits_iff :
    s.sight deadline = .waits ↔ s.flag.pending = false ∧ s.clock < deadline := by
  grind [sight, Interrupt.sleep]

theorem notices_look (thread : τ) :
    (Act.look thread (s.sight deadline)).notices = s.flag.pending := by
  cases sight : s.sight deadline with
  | interrupted => exact (sight_eq_interrupted_iff.mp sight).symm
  | elapsed => exact (sight_eq_elapsed_iff.mp sight).1.symm
  | waits => exact (sight_eq_waits_iff.mp sight).1.symm

end Looks

/-! ## One step -/

variable [DecidableEq τ] {s s' : Threads τ} {act : Act τ}

/-- Who is in a sleep after a thread has gone somewhere. -/
theorem asleep_move {thread other : τ} {phase : Phase} {deadline : Nat}
    (asleep : ((s.move thread phase).phase other).deadline? = some deadline) :
    other = thread ∧ phase.deadline? = some deadline ∨
      other ≠ thread ∧ (s.phase other).deadline? = some deadline := by
  by_cases same : other = thread
  · rw [same, phase_move_self] at asleep
    exact Or.inl ⟨same, asleep⟩
  · rw [phase_move_of_ne _ _ _ same] at asleep
    exact Or.inr ⟨same, asleep⟩

namespace Step

section Looks

variable {thread : τ} {deadline : Nat} (looking : s.phase thread = .looking deadline)

include looking

theorem interrupted (pending : s.flag.pending = true) :
    Step s (.look thread .interrupted) ({ s with flag := ⟨false⟩ }.move thread .free) := by
  have looked := Step.look looking
  rwa [sight_eq_interrupted_iff.mpr pending] at looked

theorem elapsed (clear : s.flag.pending = false) (passed : deadline ≤ s.clock) :
    Step s (.look thread .elapsed) ({ s with flag := ⟨false⟩ }.move thread .free) := by
  have looked := Step.look looking
  rwa [sight_eq_elapsed_iff.mpr ⟨clear, passed⟩] at looked

theorem waits (clear : s.flag.pending = false) (early : s.clock < deadline) :
    Step s (.look thread .waits)
      ({ s with flag := ⟨false⟩ }.move thread (.waiting deadline false)) := by
  have looked := Step.look looking
  rwa [sight_eq_waits_iff.mpr ⟨clear, early⟩] at looked

end Looks

/-- The flag after a step. -/
theorem pending_eq (step : Step s act s') :
    s'.flag.pending = (act.sets || (s.flag.pending && !act.notices)) := by
  cases step with
  | set free => rfl
  | look looking => simp [notices_look, Act.sets, Interrupt.sleep]
  | notify owes => simp [Act.sets, Act.notices]
  | sleep length free => simp [Act.sets, Act.notices]
  | leave waiting ends => simp [Act.sets, Act.notices]
  | pass time => simp [Act.sets, Act.notices]

/-- Only what is pending is noticed. -/
theorem pending_of_notices (step : Step s act s') (notices : act.notices = true) :
    s.flag.pending = true := by
  cases step with
  | look looking => rwa [notices_look] at notices
  | set free => cases notices
  | notify owes => cases notices
  | sleep length free => cases notices
  | leave waiting ends => cases notices
  | pass time => cases notices

theorem clock_eq (step : Step s act s') : s'.clock = s.clock + act.time := by
  cases step with
  | set free => rfl
  | notify owes => rfl
  | sleep length free => rfl
  | look looking => rfl
  | leave waiting ends => rfl
  | pass time => rfl

/-- A sleep that ends well has found the flag cleared and its deadline passed. -/
theorem of_elapsed {thread : τ} (step : Step s (.look thread .elapsed) s') :
    s.flag.pending = false ∧ ∃ deadline, s.phase thread = .looking deadline ∧
      deadline ≤ s.clock := by
  generalize seen : Sight.elapsed = sight at step
  cases step with
  | look looking =>
      obtain ⟨clear, passed⟩ := sight_eq_elapsed_iff.mp seen.symm
      exact ⟨clear, _, looking, passed⟩

/-- A deadline is fixed when the sleep starts, and kept. -/
theorem deadline (step : Step s act s') {thread : τ} {deadline : Nat}
    (asleep : (s'.phase thread).deadline? = some deadline) :
    (∃ length, act = .sleep thread length ∧ deadline = s.clock + length) ∨
      (s.phase thread).deadline? = some deadline ∧ ∀ length, act ≠ .sleep thread length := by
  cases step with
  | set free =>
      rcases asleep_move asleep with ⟨rfl, gone⟩ | ⟨-, asleep⟩
      · cases gone
      · exact Or.inr ⟨asleep, by simp⟩
  | notify owes =>
      rcases asleep_move asleep with ⟨rfl, gone⟩ | ⟨-, asleep⟩
      · cases gone
      · rw [Phase.deadline?_notify] at asleep
        exact Or.inr ⟨asleep, by simp⟩
  | sleep length free =>
      rcases asleep_move asleep with ⟨rfl, starts⟩ | ⟨other, asleep⟩
      · exact Or.inl ⟨length, rfl, (Option.some.inj starts).symm⟩
      · refine Or.inr ⟨asleep, ?_⟩
        rintro length' ⟨⟩
        exact other rfl
  | look looking =>
      rcases asleep_move asleep with ⟨rfl, waits⟩ | ⟨-, asleep⟩
      · rw [looking]
        exact Or.inr ⟨Sight.deadline?_next waits, by simp⟩
      · exact Or.inr ⟨asleep, by simp⟩
  | leave waiting ends =>
      rcases asleep_move asleep with ⟨rfl, looks⟩ | ⟨-, asleep⟩
      · rw [waiting]
        exact Or.inr ⟨looks, by simp⟩
      · exact Or.inr ⟨asleep, by simp⟩
  | pass time => exact Or.inr ⟨asleep, by simp⟩

end Step

/-! ## Threads that wait -/

/-- While the flag is set, threads that wait without being notified have a thread that
owes them a notification. -/
def Awaited (s : Threads τ) : Prop :=
  s.flag.pending = true → ∀ thread deadline, s.phase thread = .waiting deadline false →
    ∃ other, s.phase other = .notifying

/-- A thread that owes nothing may go anywhere but to wait. -/
theorem Awaited.move (awaited : Awaited s) {thread : τ} {phase : Phase}
    (owes_nothing : s.phase thread ≠ .notifying)
    (awake : ∀ deadline, phase ≠ .waiting deadline false) : Awaited (s.move thread phase) := by
  intro pending waiter deadline waits
  have other : waiter ≠ thread := by
    rintro rfl
    rw [phase_move_self] at waits
    exact awake deadline waits
  rw [phase_move_of_ne _ _ _ other] at waits
  obtain ⟨notifier, owes⟩ := awaited pending waiter deadline waits
  have same : notifier ≠ thread := by
    rintro rfl
    exact owes_nothing owes
  exact ⟨notifier, by rw [phase_move_of_ne _ _ _ same, owes]⟩

theorem Step.awaited (step : Step s act s') (awaited : Awaited s) : Awaited s' := by
  cases step with
  | set free => exact fun _ _ _ _ => ⟨_, phase_move_self _ _ _⟩
  | @notify thread owes =>
      intro pending waiter deadline waits
      by_cases same : waiter = thread
      · rw [same, phase_move_self] at waits
        cases waits
      · rw [phase_move_of_ne _ _ _ same] at waits
        exact absurd waits (Phase.notify_ne_waiting _ _)
  | sleep length free => exact awaited.move (by simp [free]) (by simp)
  | look looking => exact fun pending => absurd pending (by simp [Interrupt.sleep])
  | leave waiting ends => exact awaited.move (by simp [waiting]) (by simp)
  | pass time => exact awaited

/-! ## Runs -/

/-- What holds after every run. -/
structure Sound (acts : List (Act τ)) (s : Threads τ) : Prop where
  clock : s.clock = elapsed acts
  asleep : ∀ thread deadline, (s.phase thread).deadline? = some deadline →
    SleepsUntil acts thread deadline
  pending : s.flag.pending = true ↔ SetSince acts
  noticed : acts.countP Act.notices + s.flag.pending.toNat ≤ acts.countP Act.sets
  awaited : Awaited s

omit [DecidableEq τ] in
theorem Sound.start : Sound ([] : List (Act τ)) {} where
  clock := rfl
  asleep := fun _ _ gone => by cases gone
  pending := iff_of_false Bool.false_ne_true not_setSince_nil
  noticed := Nat.le_refl 0
  awaited := fun pending => by cases pending

theorem Sound.step {acts : List (Act τ)} (sound : Sound acts s) (step : Step s act s') :
    Sound (acts ++ [act]) s' where
  clock := by rw [step.clock_eq, sound.clock, elapsed_append]
  asleep := by
    intro thread deadline asleep
    rcases step.deadline asleep with ⟨length, rfl, starts⟩ | ⟨before, other⟩
    · exact ⟨acts, length, [], rfl, by simp, by rw [starts, sound.clock]⟩
    · exact (sound.asleep thread deadline before).append other
  pending := by
    rw [setSince_append, ← sound.pending, step.pending_eq]
    simp
  noticed := by
    have noticed := sound.noticed
    simp only [List.countP_append, List.countP_singleton, step.pending_eq]
    cases sets : act.sets with
    | true =>
        -- The flag may have been set before, so what is pending counts once.
        have least := Bool.toNat_le s.flag.pending
        simp only [Act.notices_of_sets sets, Bool.true_or, Bool.toNat_true, if_true,
          Bool.false_eq_true, if_false]
        omega
    | false =>
        cases notices : act.notices with
        | true =>
            rw [step.pending_of_notices notices, Bool.toNat_true] at noticed
            simpa using noticed
        | false => simpa using noticed
  awaited := step.awaited sound.awaited

theorem Run.sound {acts : List (Act τ)} (run : Run acts s) : Sound acts s := by
  induction run with
  | start => exact .start
  | step run step ih => exact ih.step step

/-- A sleep that nothing disturbs answers and clears like a sleep on the flag alone. -/
theorem Run.exists_sleep {acts : List (Act τ)} (run : Run acts s) {thread : τ}
    (free : s.phase thread = .free) (length : Nat) :
    ∃ sight between s',
      Run (acts ++ [.sleep thread length] ++ between ++ [.look thread sight]) s' ∧
        sight = (if s.flag.sleep.1 then .interrupted else .elapsed) ∧
        s'.flag = s.flag.sleep.2 ∧ s'.phase thread = .free := by
  have slept := run.step (.sleep length free)
  have self := phase_move_self s thread (.looking (s.clock + length))
  cases pending : s.flag.pending with
  | true =>
      have looked := slept.step (.interrupted self pending)
      rw [← List.append_nil (acts ++ _)] at looked
      exact ⟨.interrupted, [], _, looked, (if_pos pending).symm, rfl, phase_move_self _ _ _⟩
  | false =>
      have passed := slept.step (.pass length)
      have looked := passed.step (.elapsed self pending (Nat.le_refl _))
      have quiet : ¬s.flag.sleep.1 = true := by simp [Interrupt.sleep, pending]
      exact ⟨.elapsed, [.pass length], _, looked, (if_neg quiet).symm, rfl,
        phase_move_self _ _ _⟩

/-- The law of wakeups.  After any run:

* a sleep that is interrupted turns the flag from set to cleared;
* a sleep that ends well finds the flag cleared, and as much time has passed since its
  start as it is long;
* the flag is set exactly when it was set after the last sleep that was interrupted;
* no more sleeps were interrupted than the flag was set;
* while the flag is set and a thread waits without being notified, some thread has set the
  flag and is about to notify all who wait. -/
theorem wakeup_law {acts : List (Act τ)} (run : Run acts s) :
    (∀ thread s', Step s (.look thread .interrupted) s' →
        s.flag.pending = true ∧ s'.flag.pending = false) ∧
      (∀ thread s', Step s (.look thread .elapsed) s' →
        s.flag.pending = false ∧
          ∃ deadline, SleepsUntil acts thread deadline ∧ deadline ≤ elapsed acts) ∧
      (s.flag.pending = true ↔ SetSince acts) ∧
      acts.countP Act.notices ≤ acts.countP Act.sets ∧
      (s.flag.pending = true → ∀ thread deadline, s.phase thread = .waiting deadline false →
        ∃ other, s.phase other = .notifying) := by
  have sound := run.sound
  refine ⟨?_, ?_, sound.pending, Nat.le_of_add_right_le sound.noticed, sound.awaited⟩
  · intro thread s' step
    exact ⟨step.pending_of_notices rfl, by simp [step.pending_eq, Act.sets, Act.notices]⟩
  · intro thread s' step
    obtain ⟨clear, deadline, looking, passed⟩ := step.of_elapsed
    refine ⟨clear, deadline, sound.asleep thread deadline ?_, sound.clock ▸ passed⟩
    rw [looking]
    rfl

/-- A thread waits and another one sets the flag.  A third takes the interrupt before the
second has notified anyone. -/
theorem wakeup_law_race :
    let acts : List (Act Nat) := [.sleep 0 5, .look 0 .waits, .set 1]
    (∃ s, Run acts s ∧ s.flag.pending = true ∧ s.phase 0 = .waiting 5 false ∧ SetSince acts ∧
        ∃ other, s.phase other = .notifying) ∧
      ∃ s s', Run (acts ++ [.sleep 2 0]) s ∧ Step s (.look 2 .interrupted) s' ∧
        s.flag.pending = true ∧ s'.flag.pending = false := by
  intro acts
  have waits : Run [Act.sleep 0 5, .look 0 .waits] _ :=
    (Run.start.step (.sleep 5 rfl)).step (.waits rfl rfl (by decide))
  have set : Run acts _ := waits.step (.set rfl)
  have third : Run (acts ++ [.sleep 2 0]) _ := set.step (.sleep 0 rfl)
  constructor
  · obtain ⟨-, -, since, -, owes⟩ := wakeup_law set
    exact ⟨_, set, rfl, rfl, since.mp rfl, owes rfl 0 5 rfl⟩
  · exact ⟨_, _, third, .interrupted (phase_move_self _ _ _) rfl,
      (wakeup_law third).1 2 _ (.interrupted (phase_move_self _ _ _) rfl)⟩

end Threads

end CheckHarness
