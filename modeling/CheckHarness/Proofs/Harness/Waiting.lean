import CheckHarness.Proofs.Harness.Emission

/-!
# How waits end

A wait makes its target current, and then polls the screen.  After a poll that does not
show the target it sleeps.  Here a poll is known by how many polls come before it, so
the number of a poll is also the number a wait reports when it ends there.

All calls of a wait are known beforehand, so what its polls meet is, too: that is
`Screen.lookAt`.  An interrupt may be pending when the wait starts, it may arrive with a
poll, and it may arrive in the sleep after the poll.  `Screen.flagAt` follows the flag
through the sleeps, and `Screen.pendingAt` is what the sleep after a poll notices.

A poll is *idle* when it does not show the target and the sleep after it notices
nothing.  A wait outlasts its idle polls (`run_poll_idle`), and the first poll that is
not idle ends it.  `awaitVisible_law` says how.
-/

namespace CheckHarness

/-! ## The flag in a wait -/

namespace Interrupt

/-- The flag after a moment at which an interrupt arrives or does not. -/
def meet (flag : Interrupt) (arrives : Bool) : Interrupt :=
  if arrives then flag.raise else flag

@[simp] theorem pending_meet (flag : Interrupt) (arrives : Bool) :
    (flag.meet arrives).pending = (flag.pending || arrives) := by
  cases arrives with
  | false => simp [meet]
  | true => simp [meet, raise]

end Interrupt

/-- The flag that the sleep after a poll finds, from the flag before the poll. -/
def Look.inSleep (look : Look) (flag : Interrupt) : Interrupt :=
  (flag.meet look.interrupts).meet look.wakes

namespace Screen

/-- The calls of a wait before a poll. -/
def callsBefore (target : String) (k : Nat) : List Call :=
  .setCurrent target :: List.replicate k (.isDisplayed target)

/-- What a poll of a wait meets. -/
def lookAt (screen : Screen) (target : String) (k : Nat) : Look :=
  screen (callsBefore target (k + 1))

/-- The flag when a poll starts.  Each sleep before it has left the flag cleared. -/
def flagAt (screen : Screen) (target : String) (start : Interrupt) : Nat → Interrupt
  | 0 => start
  | k + 1 => ((screen.lookAt target k).inSleep (screen.flagAt target start k)).sleep.2

/-- Whether an interrupt is pending when the sleep after a poll looks. -/
def pendingAt (screen : Screen) (target : String) (start : Interrupt) (k : Nat) : Bool :=
  ((screen.lookAt target k).inSleep (screen.flagAt target start k)).pending

/-- The poll does not show the target, and the sleep after it notices nothing. -/
structure Idle (screen : Screen) (target : String) (start : Interrupt) (k : Nat) : Prop where
  hidden : (screen.lookAt target k).shown = false
  quiet : screen.pendingAt target start k = false

theorem callsBefore_append (target : String) (k : Nat) :
    callsBefore target k ++ [.isDisplayed target] = callsBefore target (k + 1) := by
  rw [callsBefore, List.cons_append, ← List.replicate_succ', callsBefore]

variable (screen : Screen) (target : String) (start : Interrupt)

theorem flagAt_succ (k : Nat) : screen.flagAt target start (k + 1) = ⟨false⟩ := rfl

theorem pendingAt_eq (k : Nat) :
    screen.pendingAt target start k =
      ((screen.flagAt target start k).pending || (screen.lookAt target k).interrupts ||
        (screen.lookAt target k).wakes) := by
  simp [pendingAt, Look.inSleep]

variable {screen target start}

/-- What is pending when the wait starts is still pending at a poll that is reached,
since the first sleep would have noticed it. -/
theorem pending_flagAt {k : Nat} (quiet : ∀ j < k, screen.pendingAt target start j = false) :
    (screen.flagAt target start k).pending = start.pending := by
  cases k with
  | zero => rfl
  | succ k =>
      have first := quiet 0 (Nat.zero_lt_succ k)
      rw [pendingAt_eq, Bool.or_eq_false_iff, Bool.or_eq_false_iff] at first
      exact first.1.1.symm

end Screen

namespace Harness

open Screen

variable {ρ : Type}

/-! ## Polls -/

section Polls

variable {screen : Screen} {target : String} {start : Interrupt} (h : Harness ρ)

/-- An idle poll is followed by the next one. -/
theorem run_poll_of_idle {k : Nat} (idle : screen.Idle target start k) (patience : Nat) :
    (poll screen target (patience + 1) k (callsBefore target k)).run
        { h with interrupt := screen.flagAt target start k } =
      let rest := (poll screen target patience (k + 1) (callsBefore target (k + 1))).run
        { h with interrupt := screen.flagAt target start (k + 1) }
      { rest with calls := .isDisplayed target :: rest.calls } := by
  obtain ⟨hidden, quiet⟩ := idle
  rw [pendingAt_eq] at quiet
  rw [run_poll_succ, callsBefore_append]
  rw [lookAt] at hidden quiet
  simp only [hidden, quiet, flagAt_succ, Bool.false_eq_true, if_false]

/-- A poll that shows the target ends the wait, and what is pending stays pending. -/
theorem run_poll_of_shown {k : Nat} (shown : (screen.lookAt target k).shown = true)
    (patience : Nat) :
    (poll screen target (patience + 1) k (callsBefore target k)).run
        { h with interrupt := screen.flagAt target start k } =
      { value := .shown k
        harness := { h with
          interrupt :=
            ⟨(screen.flagAt target start k).pending || (screen.lookAt target k).interrupts⟩ }
        calls := [.isDisplayed target] } := by
  rw [run_poll_succ, callsBefore_append]
  rw [lookAt] at shown
  simp only [shown, if_true]
  rfl

/-- A sleep that notices an interrupt ends the wait, and clears the flag. -/
theorem run_poll_of_pending {k : Nat} (hidden : (screen.lookAt target k).shown = false)
    (pending : screen.pendingAt target start k = true) (patience : Nat) :
    (poll screen target (patience + 1) k (callsBefore target k)).run
        { h with interrupt := screen.flagAt target start k } =
      { value := .interrupted k
        harness := { h with interrupt := ⟨false⟩ }
        calls := [.isDisplayed target] } := by
  rw [pendingAt_eq] at pending
  rw [run_poll_succ, callsBefore_append]
  rw [lookAt] at hidden pending
  simp only [hidden, pending, Bool.false_eq_true, if_false, if_true]

/-- A wait outlasts its idle polls. -/
theorem run_poll_idle {k : Nat} (idle : ∀ j < k, screen.Idle target h.interrupt j)
    (patience : Nat) :
    (poll screen target (k + patience) 0 [.setCurrent target]).run h =
      let rest := (poll screen target patience k (callsBefore target k)).run
        { h with interrupt := screen.flagAt target h.interrupt k }
      { rest with calls := List.replicate k (.isDisplayed target) ++ rest.calls } := by
  induction k generalizing patience with
  | zero =>
      rw [Nat.zero_add]
      rfl
  | succ k ih =>
      have before := ih (fun j below => idle j (Nat.lt_succ_of_lt below)) (patience + 1)
      rw [run_poll_of_idle h (idle k (Nat.lt_succ_self k))] at before
      rw [Nat.succ_add_eq_add_succ, before, List.replicate_succ']
      simp only [List.append_assoc, List.singleton_append]

end Polls

/-! ## Waits -/

section Waits

variable [Reporter ρ] {screen : Screen} {target : String} (h : Harness ρ)

/-- The first poll that shows the target ends a wait well. -/
theorem run_awaitVisible_of_shown {k patience : Nat} (enough : k < patience)
    (idle : ∀ j < k, screen.Idle target h.interrupt j)
    (shown : (screen.lookAt target k).shown = true) :
    (awaitVisible patience screen target).run h =
      { value := some true
        harness := { h with
          interrupt := ⟨h.interrupt.pending || (screen.lookAt target k).interrupts⟩ }
        log := [⟨.screen, .debug,
          "TestHarness::await_visible_state: visible after " ++ k.repr ++ " polls"⟩]
        calls := callsBefore target (k + 1) } := by
  obtain ⟨spare, rfl⟩ := Nat.exists_eq_add_of_lt enough
  have polled := run_poll_idle h idle (spare + 1)
  rw [run_poll_of_shown h shown, pending_flagAt fun j below => (idle j below).quiet] at polled
  rw [run_awaitVisible, Nat.add_assoc, polled]
  simp [emit, callsBefore, List.replicate_succ']

/-- The first sleep that notices an interrupt ends a wait badly. -/
theorem run_awaitVisible_of_pending {k patience : Nat} (enough : k < patience)
    (idle : ∀ j < k, screen.Idle target h.interrupt j)
    (hidden : (screen.lookAt target k).shown = false)
    (pending : screen.pendingAt target h.interrupt k = true) :
    (awaitVisible patience screen target).run h =
      let failure := Reporter.report h.reporter (.outcome ⟨.fail, some "INTERRUPTED"⟩)
      { value := some false
        harness := { h with
          reporter := failure.1
          note := some "INTERRUPTED"
          interrupt := ⟨false⟩ }
        log :=
          [⟨.screen, .warn,
              "TestHarness::await_visible_state: interrupted after " ++ k.repr ++ " polls"⟩,
            ⟨.harness, .debug, "TestHarness::fail_noted: INTERRUPTED"⟩] ++ failure.2
        calls := callsBefore target (k + 1) } := by
  obtain ⟨spare, rfl⟩ := Nat.exists_eq_add_of_lt enough
  have polled := run_poll_idle h idle (spare + 1)
  rw [run_poll_of_pending h hidden pending] at polled
  rw [run_awaitVisible, Nat.add_assoc, polled]
  simp [emit, callsBefore, List.replicate_succ']

/-- A wait goes on while its polls are idle. -/
theorem run_awaitVisible_of_idle {patience : Nat}
    (idle : ∀ k < patience, screen.Idle target h.interrupt k) :
    (awaitVisible patience screen target).run h =
      { value := none
        harness := { h with interrupt := screen.flagAt target h.interrupt patience }
        calls := callsBefore target patience } := by
  have polled := run_poll_idle h idle 0
  have ended : (poll screen target 0 patience (callsBefore target patience)).run
      { h with interrupt := screen.flagAt target h.interrupt patience } =
      { value := .waiting
        harness := { h with interrupt := screen.flagAt target h.interrupt patience } } := rfl
  rw [ended] at polled
  rw [run_awaitVisible, ← Nat.add_zero patience, polled]
  simp [emit, callsBefore]

end Waits

/-- The law of waits.  A wait makes its target current once, and polls until the first
poll that is not idle.

* When that poll shows the target, the wait succeeds.  It tells the reporter nothing and
  keeps the note.  An interrupt that came before or with that poll stays pending.
* When the sleep after that poll notices an interrupt, the wait fails.  The flag is
  cleared, and one failure is recorded under the note of interrupted waits.
* While all polls are idle, the wait goes on. -/
theorem awaitVisible_law [Reporter ρ] (screen : Screen) (target : String) (h : Harness ρ) :
    let shown := fun k => (screen.lookAt target k).shown
    let pending := screen.pendingAt target h.interrupt
    let polls := fun k => Call.setCurrent target :: List.replicate k (.isDisplayed target)
    let failure := Reporter.report h.reporter (.outcome ⟨.fail, some "INTERRUPTED"⟩)
    (∀ k patience, k < patience →
        shown k = true → (∀ j < k, shown j = false) → (∀ j < k, pending j = false) →
        (awaitVisible patience screen target).run h =
          { value := some true
            harness := { h with
              interrupt := ⟨h.interrupt.pending || (screen.lookAt target k).interrupts⟩ }
            log := [⟨.screen, .debug,
              "TestHarness::await_visible_state: visible after " ++ k.repr ++ " polls"⟩]
            calls := polls (k + 1) }) ∧
      (∀ k patience, k < patience →
        pending k = true → (∀ j ≤ k, shown j = false) → (∀ j < k, pending j = false) →
        (awaitVisible patience screen target).run h =
          { value := some false
            harness := { h with
              reporter := failure.1
              note := some "INTERRUPTED"
              interrupt := ⟨false⟩ }
            log :=
              [⟨.screen, .warn,
                  "TestHarness::await_visible_state: interrupted after " ++ k.repr ++ " polls"⟩,
                ⟨.harness, .debug, "TestHarness::fail_noted: INTERRUPTED"⟩] ++ failure.2
            calls := polls (k + 1) }) ∧
      ∀ patience, (∀ k < patience, shown k = false ∧ pending k = false) →
        (awaitVisible patience screen target).run h =
          { value := none
            harness := { h with interrupt := screen.flagAt target h.interrupt patience }
            calls := polls patience } := by
  intro shown pending polls failure
  refine ⟨?_, ?_, ?_⟩
  · intro k patience enough visible hidden quiet
    exact run_awaitVisible_of_shown h enough
      (fun j below => ⟨hidden j below, quiet j below⟩) visible
  · intro k patience enough noticed hidden quiet
    exact run_awaitVisible_of_pending h enough
      (fun j below => ⟨hidden j (Nat.le_of_lt below), quiet j below⟩)
      (hidden k (Nat.le_refl k)) noticed
  · intro patience idle
    exact run_awaitVisible_of_idle h fun k below => ⟨(idle k below).1, (idle k below).2⟩

/-- A screen that shows its target on the third poll, which also brings an interrupt, one
that is interrupted in the second sleep, and one that shows nothing. -/
theorem awaitVisible_law_scripts :
    let h : Harness Tally := { reporter := {}, note := some "before" }
    let late : Script := { delay := 2, interruptsOn := 3 }
    let stuck : Script := { delay := 9, wakesAfter := 2 }
    let blank : Script := { ignoresRequests := true }
    let await := fun (script : Script) => (awaitVisible 5 script.screen "main").run h
    (await late).value = some true ∧ (await late).harness.note = some "before" ∧
      (await late).harness.reporter.events = [] ∧
      (await late).harness.interrupt.pending = true ∧ (await late).calls.length = 4 ∧
      (await stuck).value = some false ∧ (await stuck).harness.note = some "INTERRUPTED" ∧
      (await stuck).harness.reporter.events = [.outcome ⟨.fail, some "INTERRUPTED"⟩] ∧
      (await stuck).harness.interrupt.pending = false ∧ (await stuck).calls.length = 3 ∧
      (await blank).value = none := by
  intro h late stuck blank await
  have shows := (awaitVisible_law late.screen "main" h).1 2 5 (by decide) (by decide) (by decide)
    (by decide)
  have breaks := (awaitVisible_law stuck.screen "main" h).2.1 1 5 (by decide) (by decide)
    (by decide) (by decide)
  have waits := (awaitVisible_law blank.screen "main" h).2.2 5 (by decide)
  simp only [await, shows, breaks, waits]
  decide

end Harness

end CheckHarness
