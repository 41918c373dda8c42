import CheckHarness.Proofs.Command.RoundTrip
import CheckHarness.Proofs.Program.Logging
import CheckHarness.Proofs.Report.Counting
import CheckHarness.Proofs.Testlet.Intended

/-!
# The self test under filters

A filter keeps the testlets whose names it occurs in, and the self test runs these and no
others, in their order.  Every check of the built-in testlets goes as intended
(`all_intended`), so what a testlet prints is the same in every run: its *block*.

The self test prints the blocks of the testlets it runs between a header and a summary.
What the summary counts can be counted on the printed lines.  `run_selftest` is the law.
-/

namespace CheckHarness

/-! ## Filters -/

namespace Selftest

theorem occursIn_iff (part text : List Char) : occursIn part text = true ↔ part <:+: text := by
  induction text with
  | nil =>
      rw [occursIn, decide_eq_true_iff]
      exact List.infix_nil.symm
  | cons c rest ih =>
      rw [occursIn, Bool.or_eq_true, List.isPrefixOf_iff_prefix, ih]
      exact List.infix_cons_iff.symm

/-- The testlets whose names contain a text. -/
def containing (part : String) : List Testlet :=
  all.filter fun testlet => part.toList <:+: testlet.name.toList

theorem matching_eq (part : String) : matching part = containing part := by
  refine List.filter_congr fun testlet _ => ?_
  rw [Bool.eq_iff_iff, occursIn_iff, decide_eq_true_iff]

theorem containing_empty : containing "" = all :=
  List.filter_eq_self.mpr fun _ _ => decide_eq_true List.nil_infix

/-- A longer filter keeps fewer testlets. -/
theorem containing_sublist {part whole : String} (occurs : part.toList <:+: whole.toList) :
    (containing whole).Sublist (containing part) := by
  refine List.monotone_filter_right _ fun _ kept => ?_
  exact decide_eq_true (occurs.trans (of_decide_eq_true kept))

/-! ## Verdicts -/

/-- Every check of the built-in testlets goes as intended. -/
theorem all_intended : ∀ testlet ∈ all, testlet.Intended := by
  decide +kernel

theorem selected_intended (filter : Option String) :
    ∀ testlet ∈ selected filter, testlet.Intended := by
  intro testlet mem
  cases filter with
  | none => exact all_intended testlet mem
  | some part =>
      rw [selected, matching_eq] at mem
      exact all_intended testlet (List.mem_filter.mp mem).1

end Selftest

/-! ## Blocks -/

namespace Testlet

/-- The lines a testlet prints alone. -/
def block (testlet : Testlet) : List String := (run 0 {} testlet ({} : Console)).reporter.lines

theorem block_of_intended {testlet : Testlet} (intended : testlet.Intended) :
    testlet.block = testlet.records.map Record.text := by
  rw [block, run_of_intended 0 {} intended]
  rfl

theorem flatMap_block {testlets : List Testlet}
    (intended : ∀ testlet ∈ testlets, testlet.Intended) :
    testlets.flatMap block = testlets.flatMap fun t => t.records.map Record.text := by
  refine List.flatMap_congr fun testlet mem => ?_
  exact block_of_intended (intended testlet mem)

/-- A block has outcomes only, and none of them is a failure. -/
theorem labels_of_mem_block {testlet : Testlet} (intended : testlet.Intended) {line : String}
    (mem : line ∈ testlet.block) :
    (Outcome.pass.Labels line ∨ Outcome.todoFail.Labels line) ∧
      ∀ message, line ≠ (Event.debug message).consoleLine := by
  rw [block_of_intended intended, List.mem_map] at mem
  obtain ⟨r, mem, rfl⟩ := mem
  have expected := Op.outcome_of_mem_recordsOf intended mem
  rw [Outcome.labels_text_iff, Outcome.labels_text_iff]
  refine ⟨expected, ?_⟩
  intro message same
  have labels : r.outcome.Labels r.text := (r.outcome.labels_text_iff r).mpr rfl
  exact r.outcome.not_labels_debug message (same ▸ labels)

end Testlet

/-! ## What is printed -/

namespace Program

/-- The summary of a self test, counted on the lines of its outcomes. -/
def summaryOf (testlets : Nat) (lines : List String) : String :=
  let labelled (outcome : Outcome) : Nat := lines.countP fun line => outcome.Labels line
  testlets.repr ++ " testlet(s), " ++
    (labelled .pass + labelled .fail + labelled .todoFail + labelled .todoPass).repr ++
    " check(s): " ++
    (labelled .pass).repr ++ " passed, " ++ (labelled .fail).repr ++ " failed, " ++
    (labelled .todoFail).repr ++ " expected failures, " ++
    (labelled .todoPass).repr ++ " unexpected passes"

/-- All that a self test prints: the blocks of its testlets between a header and a summary,
or that there are none. -/
def transcript : List Testlet → List String
  | [] => ["No testlets matched"]
  | testlets =>
    ["testlet " ++ version ++ " selftest"] ++ testlets.flatMap Testlet.block ++
      ["", summaryOf testlets.length (testlets.flatMap Testlet.block)]

theorem summary_eq (testlets : Nat) (tally : Tally) :
    summary testlets tally = summaryOf testlets (tally.events.map Event.consoleLine) := by
  simp only [summary, summaryOf, tally.total_eq, tally.count_eq_countP]

/-- The events of testlets that go as intended are printed as their blocks. -/
theorem map_consoleLine_records {testlets : List Testlet}
    (intended : ∀ testlet ∈ testlets, testlet.Intended) :
    (testlets.flatMap fun t => t.records.map Event.outcome).map Event.consoleLine =
      testlets.flatMap Testlet.block := by
  rw [Testlet.flatMap_block intended, List.map_flatMap]
  refine List.flatMap_congr fun testlet _ => ?_
  rw [List.map_map]
  rfl

theorem failures_eq_zero {testlets : List Testlet}
    (intended : ∀ testlet ∈ testlets, testlet.Intended) :
    (⟨testlets.flatMap fun t => t.records.map Event.outcome⟩ : Tally).failures = 0 := by
  rw [Tally.failures, List.countP_eq_zero]
  intro r mem
  simp only [Tally.records, List.mem_filterMap, List.mem_flatMap, List.mem_map] at mem
  obtain ⟨event, ⟨testlet, mem, record, recorded, rfl⟩, same⟩ := mem
  obtain rfl : record = r := Option.some.inj same
  rcases Op.outcome_of_mem_recordsOf (intended testlet mem) recorded with outcome | outcome <;>
    rw [outcome] <;> decide

/-- The self test does to the console what the testlets it runs do. -/
theorem selftest_eq (settings : Settings) (filter : Option String) :
    selftest settings filter =
      { printed := transcript (Selftest.selected filter)
        log := (Selftest.selected filter).flatMap fun t =>
          t.announcement :: t.records.map fun r => (Event.outcome r).logLine
        failures := 0 } := by
  have intended := Selftest.selected_intended filter
  rw [selftest]
  cases kept : Selftest.selected filter with
  | nil => rfl
  | cons testlet testlets =>
      rw [kept] at intended
      have failures := failures_eq_zero intended
      have printed := map_consoleLine_records intended
      simp only [Testlet.runAll_of_intended 0 settings intended, List.nil_append, summary_eq,
        printed, failures, ← Testlet.flatMap_block intended]
      rfl

/-! ## Command lines -/

/-- The words of a self test are read as one. -/
theorem ofWords_selftest (filter : Option String) :
    Invocation.ofWords ("selftest" :: (filter.map fun part => "--filter=" ++ part).toList) =
      .ok { logLevel := none, config := none, command := .selftest filter } := by
  have words : (Command.selftest filter).Written
      ("selftest" :: (filter.map fun part => "--filter=" ++ part).toList) := by
    cases filter with
    | none => exact .mixed (.refl _) nofun .nil
    | some part => exact .mixed (.refl _) nofun (.setting (s := .filter part) .nil)
  obtain ⟨rest, named, read⟩ := words.ofWords_eq
  obtain ⟨-, rfl⟩ := List.cons.inj named
  have none : Command.Settable .outer {} [] := ⟨nofun, nofun, nofun, .nil⟩
  have line := Invocation.ofWordsFrom_settings none (Invocation.isName_name _) read
  exact line

/-- What a self test shows without settings of the run. -/
theorem run_selftest_eq (lookup : String → Lookup) (environment filter : Option String) :
    run lookup environment ("selftest" :: (filter.map fun part => "--filter=" ++ part).toList) =
      let read := Log.Filter.ofText (environment.getD "info")
      { printed := transcript (Selftest.selected filter)
        log := read.filter.select (emitted (.selftest filter))
        warnings := read.warnings.flatMap Log.Warning.lines } := by
  have word : filterText environment none none = environment.getD "info" := by
    cases environment <;> rfl
  rw [run, ofWords_selftest]
  simp only [invoke, settingsOf, word, execute, emitted, selftest_eq]
  rfl

/-- The lines that announce testlets are those of the testlets that run. -/
theorem filter_emitted (filter : Option String) :
    (emitted (.selftest filter)).filter (fun line => line.source = .testlet) =
      (Selftest.selected filter).map Testlet.announcement := by
  have outcomes (records : List Record) :
      (records.map fun r => (Event.outcome r).logLine).filter
        (fun line => line.source = .testlet) = [] := by
    rw [List.filter_eq_nil_iff]
    intro line mem
    obtain ⟨r, -, rfl⟩ := List.mem_map.mp mem
    exact Bool.false_ne_true
  simp only [emitted, execute, selftest_eq, Nat.lt_irrefl, if_false, List.append_nil]
  induction Selftest.selected filter with
  | nil => rfl
  | cons testlet testlets ih =>
      have announced : testlet.announcement.source = .testlet := rfl
      rw [List.flatMap_cons, List.filter_append, ih, List.filter_cons, outcomes,
        if_pos (decide_eq_true announced)]
      rfl

/-- The law of the self test.  With the words `selftest` and `--filter=part` the testlets
run whose names contain `part`, in their order.  Between the header and the summary each
prints its block, which is what it adds to the console in the run of all testlets, wherever
it stands there.  The blocks have outcomes that are no failures and nothing else, and the
run ends well.  The empty filter is none, and a longer filter keeps fewer testlets. -/
theorem run_selftest (lookup : String → Lookup) (environment : Option String) :
    (∀ before testlet after, Selftest.all = before ++ testlet :: after →
        let console := (Testlet.runAll 0 {} before ({} : Console)).reporter
        (Testlet.run 0 {} testlet console).reporter.lines = console.lines ++ testlet.block) ∧
      (run lookup environment ["selftest"]).printed = transcript Selftest.all ∧
      run lookup environment ["selftest", "--filter="] = run lookup environment ["selftest"] ∧
      ∀ part : String,
        let kept := Selftest.containing part
        let shown := run lookup environment ["selftest", "--filter=" ++ part]
        let log := emitted (.selftest (some part))
        (log.filter (fun line => line.source = .testlet) = kept.map Testlet.announcement ∧
            shown.log = (Log.Filter.ofText (environment.getD "info")).filter.select log) ∧
          shown.printed = transcript kept ∧ shown.exit = 0 ∧ shown.error = [] ∧
          (∀ line ∈ kept.flatMap Testlet.block,
            (Outcome.pass.Labels line ∨ Outcome.todoFail.Labels line) ∧
              ∀ message, line ≠ (Event.debug message).consoleLine) ∧
          ∀ whole : String, part.toList <:+: whole.toList →
            (Selftest.containing whole).Sublist kept := by
  have unfiltered := run_selftest_eq lookup environment none
  have filtered (part : String) := run_selftest_eq lookup environment (some part)
  refine ⟨?blocks, ?whole, ?empty, ?filters⟩
  case blocks =>
    rintro before testlet after all console
    have intended : testlet.Intended := Selftest.all_intended testlet (by rw [all]; simp)
    rw [Testlet.run_of_intended 0 {} intended, Testlet.block_of_intended intended]
  case whole => exact congrArg Output.printed unfiltered
  case empty =>
    have same : Selftest.selected (some "") = Selftest.selected none :=
      (Selftest.matching_eq "").trans Selftest.containing_empty
    have log : emitted (.selftest (some "")) = emitted (.selftest none) := by
      simp only [emitted, execute, selftest_eq, same]
    refine (filtered "").trans (.trans ?_ unfiltered.symm)
    rw [same, log]
  case filters =>
    intro part kept shown log
    have selected : Selftest.selected (some part) = kept := Selftest.matching_eq part
    have shows : shown = _ := filtered part
    rw [selected] at shows
    refine ⟨⟨selected ▸ filter_emitted (some part), congrArg Output.log shows⟩,
      congrArg Output.printed shows, congrArg Output.exit shows, congrArg Output.error shows,
      ?_, ?_⟩
    · intro line mem
      obtain ⟨testlet, mem, printed⟩ := List.mem_flatMap.mp mem
      exact Testlet.labels_of_mem_block
        (Selftest.all_intended testlet (List.mem_filter.mp mem).1) printed
    · intro whole occurs
      exact Selftest.containing_sublist occurs

/-- Two testlets have `float` in their names.  One of them is the second of all, and has
`zero` in its name too. -/
theorem run_selftest_float :
    let shown := run (fun _ => .missing) none ["selftest", "--filter=float"]
    shown.printed =
        ["testlet 0.1.0 selftest", "PASS: double +0", "PASS: double -0", "PASS: float +0",
          "PASS: double +0 vs -0", "PASS: float -0 vs +0", "PASS: reciprocal of -0",
          "PASS: distinct values", "PASS: double NaN", "PASS: float NaN", "PASS: NaN vs 1.0",
          "PASS: 1.0 vs NaN", "PASS: sqrt(-1)", "",
          "2 testlet(s), 12 check(s): 12 passed, 0 failed, 0 expected failures, " ++
            "0 unexpected passes"] ∧
      shown.exit = 0 ∧
      (let console := (Testlet.runAll 0 {} [Selftest.primitives] ({} : Console)).reporter
       (Testlet.run 0 {} Selftest.floatZero console).reporter.lines =
         console.lines ++ Selftest.floatZero.block) ∧
      (Selftest.containing "float-zero").Sublist (Selftest.containing "float") := by
  intro shown
  obtain ⟨blocks, -, -, filters⟩ := run_selftest (fun _ => .missing) none
  obtain ⟨-, printed, exit, -, -, longer⟩ := filters "float"
  have split : Selftest.all = [Selftest.primitives] ++ Selftest.floatZero ::
      [Selftest.floatNaN, Selftest.objects, Selftest.todo] := rfl
  have added := blocks _ _ _ split
  refine ⟨printed.trans ?_, exit, added, longer "float-zero" (by decide)⟩
  decide +kernel

end Program

end CheckHarness
