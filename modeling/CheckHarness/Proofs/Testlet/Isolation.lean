import CheckHarness.Proofs.Harness.Trace
import CheckHarness.Proofs.Harness.Transparency
import CheckHarness.Testlet

/-!
# Testlets are isolated

Every testlet runs on a harness of its own, so all that one leaves to the next is the
reporter.  What a testlet does does not depend on the reporter either: it has answers and
emissions which are found before any reporter is chosen (`exists_run`).  On a tally this
means that a testlet adds the same events and gives the same answers as it does alone on
an empty one.

`Entry` says where a body starts: the note is the testlet's name and no interrupt is
pending.  As long as a body sets no note, whatever it records is under that name, apart
from the outcomes it records with the reporter past its harness.

`runAll_isolated` is the law for testlets that run one after the other.
-/

namespace CheckHarness

open Reporter

namespace Op

/-! ## Runs on a tally -/

/-- A run keeps the events that are there. -/
theorem events_prefix_run (patience : Nat) (ops : List Op) (h : Harness Tally) :
    h.reporter.events <+: ((run patience ops).run h).harness.reporter.events := by
  obtain ⟨courses, follows⟩ := exists_courses_run patience ops h
  obtain ⟨-, -, -, received⟩ := follows Tally h.reporter
  rw [receive_tally, Prod.mk.injEq] at received
  exact ⟨_, (congrArg Tally.events received.1).symm⟩

/-- A run that goes on keeps the events of its beginning. -/
theorem events_run_prefix_append (patience : Nat) (first rest : List Op) (h : Harness Tally) :
    ((run patience first).run h).harness.reporter.events <+:
      ((run patience (first ++ rest)).run h).harness.reporter.events := by
  induction first generalizing h with
  | nil => exact events_prefix_run patience rest h
  | cons op ops ih =>
      rw [List.cons_append]
      by_cases waits : ((op.perform patience).run h).value = .waiting
      · have stops (rest : List Op) := run_cons_waiting patience op rest h waits
        refine ⟨[], ?_⟩
        rw [stops, stops, List.append_nil]
      · rw [run_cons patience op _ h waits, run_cons patience op _ h waits]
        exact ih _

/-! ## Actions that set no note -/

/-- An outcome is recorded under the note in force, or with the reporter itself. -/
theorem note_of_mem_block {note : Option String} {op : Op} {answer : Answer} {record : Record}
    (mem : .outcome record ∈ op.block note answer) :
    record.note = note ∨ op = .record record.outcome record.note := by
  unfold block at mem
  split at mem
  · simp at mem
  · simp only [List.mem_singleton, Event.outcome.injEq] at mem
    exact Or.inr (by rw [mem])
  · simp only [List.mem_singleton, Event.outcome.injEq] at mem
    exact Or.inl (by rw [mem])
  · simp only [List.mem_cons, Event.outcome.injEq, List.mem_map, reduceCtorEq, and_false,
      exists_const, or_false] at mem
    exact Or.inl (by rw [mem])
  · cases mem

/-- While no action sets a note, all outcomes are recorded under the first one. -/
theorem note_of_mem_blocks {note : Option String} {ops : List Op} {answers : List Answer}
    (keep : ∀ pair ∈ ops.zip answers, pair.1.newNote? pair.2 = none) {record : Record}
    (mem : .outcome record ∈ (blocks note ops answers).flatten) :
    record.note = note ∨ .record record.outcome record.note ∈ ops := by
  induction ops generalizing answers with
  | nil => cases mem
  | cons op ops ih =>
      cases answers with
      | nil => cases mem
      | cons answer answers =>
          have kept : op.noteAfter note answer = note := by
            have none := keep (op, answer) List.mem_cons_self
            rw [noteAfter, none, Option.none_or]
          rw [blocks, kept, List.flatten_cons, List.mem_append] at mem
          rcases mem with mem | mem
          · rcases note_of_mem_block mem with under | rfl
            · exact Or.inl under
            · exact Or.inr List.mem_cons_self
          · have later := ih (fun pair mem => keep pair (List.mem_cons_of_mem _ mem)) mem
            exact later.imp_right (List.mem_cons_of_mem _)

end Op

namespace Testlet

/-! ## One testlet -/

/-- A testlet takes one course over all reporters. -/
theorem exists_run (patience : Nat) (settings : Settings) (testlet : Testlet) :
    ∃ (answers : List Answer) (emissions : List Emission),
      ∀ (ρ : Type) [Reporter ρ] (reporter : ρ),
        run patience settings testlet reporter =
          { reporter := (receive reporter emissions).1
            answers
            log := ⟨.testlet, .info, "Running testlet " ++ testlet.name⟩ ::
              (receive reporter emissions).2 } := by
  obtain ⟨courses, follows⟩ :=
    Op.exists_courses_run patience testlet.body (enter testlet.name settings ()).harness
  refine ⟨courses.map (·.value), courses.flatMap (·.emissions), ?_⟩
  intro ρ _ reporter
  obtain ⟨-, -, answers, received⟩ := follows ρ reporter
  rw [← received, ← answers]
  rfl

section Reporters

variable (patience : Nat) (settings : Settings) (testlet : Testlet)

/-- On a tally a testlet adds what it does alone. -/
theorem run_tally (tally : Tally) :
    run patience settings testlet tally =
      let alone := run patience settings testlet ({} : Tally)
      { alone with reporter := ⟨tally.events ++ alone.reporter.events⟩ } := by
  obtain ⟨answers, emissions, ran⟩ := exists_run patience settings testlet
  rw [ran Tally tally, ran Tally {}, receive_tally, receive_tally]
  rfl

/-- Behind a relay a testlet does what it does without one. -/
theorem run_relay {ρ : Type} [Reporter ρ] (reporter : ρ) :
    run patience settings testlet (⟨reporter⟩ : Relay ρ) =
      let direct := run patience settings testlet reporter
      { reporter := ⟨direct.reporter⟩, answers := direct.answers, log := direct.log } := by
  obtain ⟨answers, emissions, ran⟩ := exists_run patience settings testlet
  rw [ran (Relay ρ) ⟨reporter⟩, ran ρ reporter, receive_relay]

end Reporters

/-! ## Testlets in a row -/

section Rows

variable (patience : Nat) (settings : Settings)

theorem runAll_tally (testlets : List Testlet) (tally : Tally) :
    runAll patience settings testlets tally =
      let alone := fun testlet => run patience settings testlet ({} : Tally)
      { reporter :=
          ⟨tally.events ++ testlets.flatMap fun testlet => (alone testlet).reporter.events⟩
        answers := testlets.map fun testlet => (alone testlet).answers
        log := testlets.flatMap fun testlet => (alone testlet).log } := by
  induction testlets generalizing tally with
  | nil => simp [runAll]
  | cons testlet testlets ih =>
      rw [runAll, run_tally]
      simp only [ih, List.append_assoc, List.flatMap_cons, List.map_cons]

theorem runAll_relay {ρ : Type} [Reporter ρ] (testlets : List Testlet) (reporter : ρ) :
    runAll patience settings testlets (⟨reporter⟩ : Relay ρ) =
      let direct := runAll patience settings testlets reporter
      { reporter := ⟨direct.reporter⟩, answers := direct.answers, log := direct.log } := by
  induction testlets generalizing reporter with
  | nil => rfl
  | cons testlet testlets ih =>
      rw [runAll, run_relay]
      simp only [ih, runAll]

/-- Testlets in a row are the first of them, and then the others. -/
theorem runAll_append {ρ : Type} [Reporter ρ] (before after : List Testlet) (reporter : ρ) :
    runAll patience settings (before ++ after) reporter =
      let first := runAll patience settings before reporter
      let rest := runAll patience settings after first.reporter
      { rest with answers := first.answers ++ rest.answers, log := first.log ++ rest.log } := by
  induction before generalizing reporter with
  | nil => rfl
  | cons testlet before ih => simp only [List.cons_append, runAll, ih, List.append_assoc]

/-- The body of a testlet in a row runs on a harness of its own, over the tally that the
testlets before it have left. -/
theorem runAll_body (before after : List Testlet) (testlet : Testlet) (tally : Tally) :
    let reached := (runAll patience settings before tally).reporter
    let body := (Op.run patience testlet.body).run (enter testlet.name settings reached).harness
    let report := runAll patience settings (before ++ testlet :: after) tally
    report.answers[before.length]? = some body.value ∧
      body.harness.reporter.events <+: report.reporter.events := by
  intro reached body report
  have split : report = runAll patience settings (before ++ testlet :: after) tally := rfl
  rw [runAll_append] at split
  have answers : report.answers = (runAll patience settings before tally).answers ++
      body.value :: (runAll patience settings after body.harness.reporter).answers := by
    rw [split]
    rfl
  have reporter : report.reporter =
      (runAll patience settings after body.harness.reporter).reporter := by
    rw [split]
    rfl
  have length : (runAll patience settings before tally).answers.length = before.length := by
    rw [runAll_tally, List.length_map]
  constructor
  · rw [answers, ← length, List.getElem?_append_right (Nat.le_refl _), Nat.sub_self]
    rfl
  · rw [reporter, runAll_tally]
    exact List.prefix_append _ _

end Rows

/-- What a body records before it sets a note is recorded under the name of its testlet. -/
theorem note_of_early {patience : Nat} {settings : Settings} {name : String} {tally : Tally}
    {ops : List Op} :
    let early := (Op.run patience ops).run (enter name settings tally).harness
    .waiting ∉ early.value →
    (∀ pair ∈ ops.zip early.value, pair.1.newNote? pair.2 = none) →
    ∃ events, early.harness.reporter.events = tally.events ++ events ∧
      ∀ record, .outcome record ∈ events →
        record.note = some name ∨ .record record.outcome record.note ∈ ops := by
  intro early returns keep
  obtain ⟨-, -, events⟩ := Op.run_follows patience ops (enter name settings tally).harness returns
  exact ⟨_, events, fun record mem => Op.note_of_mem_blocks keep mem⟩

/-! ## Orders -/

/-- Counts do not depend on the order of events. -/
theorem count_of_perm {first second : Tally} (order : first.events.Perm second.events)
    (outcome : Outcome) :
    first.count outcome = second.count outcome ∧ first.failures = second.failures :=
  have records := order.filterMap Event.record?
  ⟨records.countP_eq _, records.countP_eq _⟩

/-- The law of isolation.  Testlets that run one after the other on a tally do there what
each does alone on an empty tally: the events are the earlier ones and then the blocks of
the testlets, and the answers are theirs.  A relay to the tally makes no difference.

The body of each testlet starts with the testlet's name for a note and with no interrupt
pending.  Until it sets a note, its outcomes are recorded under that name, unless it
records them with the reporter itself.

In another order there are the same blocks in that order, so the counts are the same. -/
theorem runAll_isolated (patience : Nat) (settings : Settings) (testlets : List Testlet)
    (tally : Tally) :
    let alone := fun testlet => run patience settings testlet ({} : Tally)
    let report := runAll patience settings testlets tally
    let relayed := runAll patience settings testlets (⟨tally⟩ : Relay Tally)
    (report.reporter.events =
          tally.events ++ testlets.flatMap (fun testlet => (alone testlet).reporter.events) ∧
        report.answers = testlets.map fun testlet => (alone testlet).answers) ∧
      (relayed.reporter.inner = report.reporter ∧ relayed.answers = report.answers) ∧
      (∀ before testlet after, testlets = before ++ testlet :: after →
        let entry : Harness Tally :=
          { reporter := (runAll patience settings before tally).reporter
            note := some testlet.name
            pollMillis := settings.pollMillis
            interrupt := ⟨false⟩ }
        let body := (Op.run patience testlet.body).run entry
        report.answers[before.length]? = some body.value ∧
          body.harness.reporter.events <+: report.reporter.events ∧
          ∀ first rest, testlet.body = first ++ rest →
            let early := (Op.run patience first).run entry
            .waiting ∉ early.value →
            (∀ pair ∈ first.zip early.value, pair.1.newNote? pair.2 = none) →
            ∃ events, early.harness.reporter.events = entry.reporter.events ++ events ∧
              early.harness.reporter.events <+: body.harness.reporter.events ∧
              ∀ record, .outcome record ∈ events →
                record.note = some testlet.name ∨
                  .record record.outcome record.note ∈ first) ∧
      ∀ others, testlets.Perm others →
        let report' := runAll patience settings others tally
        report'.reporter.events =
            tally.events ++ others.flatMap (fun testlet => (alone testlet).reporter.events) ∧
          (∀ outcome, report'.reporter.count outcome = report.reporter.count outcome) ∧
          report'.reporter.failures = report.reporter.failures := by
  intro alone report relayed
  have events (testlets : List Testlet) := congrArg (·.reporter.events)
    (runAll_tally patience settings testlets tally)
  refine ⟨⟨events testlets, congrArg (·.answers) (runAll_tally patience settings testlets tally)⟩,
    ?_, ?_, ?_⟩
  · have same := runAll_relay patience settings testlets tally
    exact ⟨congrArg (·.reporter.inner) same, congrArg (·.answers) same⟩
  · rintro before testlet after rfl entry body
    obtain ⟨answers, kept⟩ := runAll_body patience settings before after testlet tally
    refine ⟨answers, kept, ?_⟩
    intro first rest split early returns keep
    obtain ⟨added, early_events, under⟩ := note_of_early returns keep
    have begins : early.harness.reporter.events <+: body.harness.reporter.events := by
      simp only [body, split]
      exact Op.events_run_prefix_append patience first rest entry
    exact ⟨added, early_events, begins, under⟩
  · intro others order report'
    have same : report'.reporter.events.Perm report.reporter.events := by
      rw [events testlets, events others]
      exact (order.symm.flatMap_right _).append_left _
    exact ⟨events others, fun outcome => (count_of_perm same outcome).1,
      (count_of_perm same .pass).2⟩

/-- A testlet that leaves a note and an interrupt behind, and one that would see them. -/
theorem runAll_isolated_leak :
    let leaky : Testlet := ⟨"leaky", [.pass, .setNote "left", .interrupt]⟩
    let clean : Testlet := ⟨"clean", [.sleep 1, .check false]⟩
    let tally : Tally := ⟨[.debug "earlier"]⟩
    let report := runAll 0 {} [leaky, clean] tally
    report.reporter.events =
        [.debug "earlier", .outcome ⟨.pass, some "leaky"⟩, .outcome ⟨.fail, some "clean"⟩] ∧
      report.answers = [[.outcome .pass, .done, .done], [.slept false, .outcome .fail]] ∧
      (runAll 0 {} [clean, leaky] tally).reporter.failures = report.reporter.failures ∧
      ∀ record, .outcome record ∈ [Event.outcome ⟨.fail, some "clean"⟩] →
        record.note = some "clean" ∨ .record record.outcome record.note ∈ clean.body := by
  intro leaky clean tally report
  obtain ⟨⟨events, answers⟩, -, bodies, orders⟩ := runAll_isolated 0 {} [leaky, clean] tally
  obtain ⟨-, -, early⟩ := bodies [leaky] clean [] rfl
  obtain ⟨added, kept, -, under⟩ := early clean.body [] rfl (by decide) (by decide)
  have block : added = [.outcome ⟨.fail, some "clean"⟩] :=
    List.append_cancel_left (kept.symm.trans (by decide))
  exact ⟨events.trans (by decide), answers.trans (by decide),
    (orders [clean, leaky] (.swap _ _ _)).2.2, block ▸ under⟩

end Testlet

end CheckHarness
