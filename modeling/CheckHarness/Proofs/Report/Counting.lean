import CheckHarness.Report
import Mathlib.Data.List.Infix

/-!
# Counting printed outcomes

The console prints an outcome behind its label, and a diagnostic behind blanks.  No label
goes on as another does, so a printed line shows whether it is an outcome, and which.  That
is why the counts of a tally can be read off the console (`count_eq_countP`).

Every outcome is one of four, so what a tally counts adds up to what it holds (`total_eq`),
and so do the counts of any choice among the four (`countP_outcome`).  What is counted in a
list of events is counted in its two parts.
-/

namespace CheckHarness

namespace Outcome

/-- The line starts with the label of the outcome. -/
def Labels (outcome : Outcome) (line : String) : Prop :=
  (outcome.label ++ ": ").toList <+: line.toList

instance {outcome : Outcome} {line : String} : Decidable (outcome.Labels line) :=
  inferInstanceAs (Decidable (_ <+: _))

theorem labels_text_iff (outcome : Outcome) (r : Record) :
    outcome.Labels r.text ↔ r.outcome = outcome := by
  obtain ⟨recorded, note⟩ := r
  rw [Labels, Record.text, String.toList_append]
  cases outcome <;> cases recorded <;> simp [label]

/-- A diagnostic has no label. -/
theorem not_labels_debug (outcome : Outcome) (message : String) :
    ¬outcome.Labels (Event.debug message).consoleLine := by
  rw [Labels, Event.consoleLine, String.toList_append]
  cases outcome <;> simp [label]

end Outcome

namespace Tally

/-- The outcomes of one kind are as many as the lines with its label. -/
theorem count_eq_countP (tally : Tally) (outcome : Outcome) :
    tally.count outcome =
      (tally.events.map Event.consoleLine).countP fun line => outcome.Labels line := by
  obtain ⟨events⟩ := tally
  rw [count, records]
  induction events with
  | nil => rfl
  | cons event events ih =>
      cases event with
      | outcome r =>
          have label : outcome.Labels (Event.outcome r).consoleLine ↔ r.outcome = outcome :=
            outcome.labels_text_iff r
          simp only [List.filterMap_cons, Event.record?, List.countP_cons, List.map_cons, ih, label]
      | debug message =>
          have label := outcome.not_labels_debug message
          simp only [List.filterMap_cons, Event.record?, List.countP_cons, List.map_cons, ih, label,
            decide_false, Bool.false_eq_true, if_false, Nat.add_zero]

/-- Records picked by their outcomes are counted outcome by outcome. -/
theorem countP_outcome (tally : Tally) (picks : Outcome → Bool) :
    (tally.records.countP fun record => picks record.outcome) =
      (if picks .pass then tally.count .pass else 0) +
        (if picks .fail then tally.count .fail else 0) +
        (if picks .todoFail then tally.count .todoFail else 0) +
        (if picks .todoPass then tally.count .todoPass else 0) := by
  rw [count, count, count, count]
  induction tally.records with
  | nil => simp
  | cons r records ih =>
      rw [List.countP_cons, ih]
      obtain ⟨outcome, note⟩ := r
      cases outcome with
      | pass => cases picks .pass <;> simp; omega
      | fail => cases picks .fail <;> simp; omega
      | todoPass => cases picks .todoPass <;> simp; omega
      | todoFail => cases picks .todoFail <;> simp; omega

/-- Every outcome is counted once. -/
theorem total_eq (tally : Tally) :
    tally.total =
      tally.count .pass + tally.count .fail + tally.count .todoFail + tally.count .todoPass := by
  rw [total, ← List.countP_true, tally.countP_outcome fun _ => true]
  rfl

/-- The failures are the checks that do not hold and the todos that do. -/
theorem failures_eq (tally : Tally) :
    tally.failures = tally.count .fail + tally.count .todoPass := by
  rw [failures, tally.countP_outcome Outcome.isFailure]
  simp [Outcome.isFailure]

/-! ## Events in two parts -/

theorem records_append (events later : List Event) :
    records ⟨events ++ later⟩ = records ⟨events⟩ ++ records ⟨later⟩ :=
  List.filterMap_append

theorem total_append (events later : List Event) :
    total ⟨events ++ later⟩ = total ⟨events⟩ + total ⟨later⟩ := by
  rw [total, records_append, List.length_append]
  rfl

theorem count_append (events later : List Event) (outcome : Outcome) :
    count ⟨events ++ later⟩ outcome = count ⟨events⟩ outcome + count ⟨later⟩ outcome := by
  rw [count, records_append, List.countP_append]
  rfl

theorem failures_append (events later : List Event) :
    failures ⟨events ++ later⟩ = failures ⟨events⟩ + failures ⟨later⟩ := by
  rw [failures, records_append, List.countP_append]
  rfl

end Tally

end CheckHarness
