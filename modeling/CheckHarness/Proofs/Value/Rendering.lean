import CheckHarness.Proofs.Harness.Emission
import CheckHarness.Proofs.Value.RoundTrip

/-!
# What rendering tells apart

Two values of one kind agree exactly when they are rendered alike, with one exception: the
absent object is rendered like the object that shows the word for absence, and does not
agree with it.

That values which agree are rendered alike follows from their canonical forms, since a
value is rendered as its canonical form is.  The other direction needs no look at digits.
A text reads back as one value only, so values that are rendered alike read back as the
same value, and each agrees with what it reads back as.

So a comparison that fails shows two different texts.  `agrees_iff_render` is the law.
-/

namespace CheckHarness

namespace Value

/-! ## Canonical forms are rendered alike -/

theorem render_canonical (v : Value) : render v.canonical = render v := by
  cases v with
  | float x => exact Binary.writeWith_canonical _ Format.proper_single x
  | double x => exact Binary.writeWith_canonical _ Format.proper_double x
  | bool b => rfl
  | int n => rfl
  | long n => rfl
  | object text => rfl

theorem render_eq_of_agrees {a b : Value} (same : agrees a b = true) : render a = render b := by
  rw [← render_canonical a, (agrees_iff_canonical a b).mp same, render_canonical]

/-! ## Texts tell values apart -/

/-- One value is the absent object, and the other shows the word for it. -/
def Confused (a b : Value) : Prop :=
  a = absent ∧ b = .object (some "null") ∨ a = .object (some "null") ∧ b = absent

/-- Values of one kind that are rendered alike read back as the same value. -/
theorem readBack_eq_of_render {a b : Value} (kind : a.kind = b.kind)
    (alike : render a = render b) : a.readBack = b.readBack := by
  have read := a.parse_render
  rw [kind, alike, b.parse_render] at read
  exact (Except.ok.inj read).symm

/-- A value agrees with what it reads back as, so both have one canonical form. -/
theorem canonical_readBack {v : Value} (plain : v ≠ .object (some absentText)) :
    v.readBack.canonical = v.canonical :=
  (agrees_iff_canonical v.readBack v).mp (v.agrees_readBack.mpr plain)

/-- Two objects are rendered as the word for absence. -/
theorem eq_of_render_absentText {v : Value} (kind : v.kind = .object)
    (word : render v = absentText) : v = absent ∨ v = .object (some absentText) := by
  cases v with
  | object text =>
      cases text with
      | none => exact Or.inl rfl
      | some text =>
          have shows : text = absentText := word
          exact Or.inr (by rw [shows])
  | bool b => cases kind
  | int n => cases kind
  | long n => cases kind
  | float x => cases kind
  | double x => cases kind

theorem agrees_of_render_eq {a b : Value} (kind : a.kind = b.kind) (alike : render a = render b)
    (clear : ¬Confused a b) : agrees a b = true := by
  rw [agrees_iff_canonical]
  by_cases hidden : a = .object (some absentText)
  · subst hidden
    rcases eq_of_render_absentText kind.symm alike.symm with rfl | rfl
    · exact absurd (Or.inr ⟨rfl, rfl⟩) clear
    · rfl
  · by_cases hidden' : b = .object (some absentText)
    · subst hidden'
      rcases eq_of_render_absentText kind alike with rfl | rfl
      · exact absurd (Or.inl ⟨rfl, rfl⟩) clear
      · rfl
    · rw [← canonical_readBack hidden, readBack_eq_of_render kind alike,
        canonical_readBack hidden']

/-- The two objects of the exception. -/
theorem Confused.render_eq {a b : Value} (confused : Confused a b) :
    render a = render b ∧ agrees a b = false := by
  rcases confused with ⟨rfl, rfl⟩ | ⟨rfl, rfl⟩
  · exact ⟨rfl, rfl⟩
  · exact ⟨rfl, rfl⟩

/-! ## Comparisons -/

/-- What a comparison that fails tells a tally. -/
theorem events_checkEq_of_fail {operands : Operands} {a b : Value}
    (values : operands.dynamic = .value a b) (h : Harness Tally)
    (fails : ((Harness.checkEq operands).run h).value = .fail) :
    agrees a b = false ∧
      ((Harness.checkEq operands).run h).harness.reporter.events =
        h.reporter.events ++ [.outcome ⟨.fail, h.note⟩,
          .debug ("got (" ++ render a ++ "), expected (" ++ render b ++ ")")] := by
  have agree : operands.agree = agrees a b := by
    rw [← Operands.agree_dynamic, values]
    rfl
  have result : operands.result = render a := by
    rw [← Operands.result_dynamic, values]
    rfl
  have expected : operands.expected = render b := by
    rw [← Operands.expected_dynamic, values]
    rfl
  rw [Harness.run_checkEq, agree, result, expected] at fails ⊢
  cases differ : agrees a b with
  | true =>
      rw [differ] at fails
      cases fails
  | false => exact ⟨rfl, by simp [Outcome.ofCheck]⟩

/-- The law of rendering.  Values of one kind agree exactly when they are rendered alike,
unless they are the absent object and the object that shows the word for it.  Those are
rendered alike and do not agree.  So every other failure that a comparison records is
followed by a diagnostic with two different texts. -/
theorem agrees_iff_render (a b : Value) (kind : a.kind = b.kind) :
    (¬Confused a b → (agrees a b = true ↔ render a = render b)) ∧
      (Confused a b → render a = render b ∧ agrees a b = false) ∧
      ∀ (operands : Operands) (h : Harness Tally), operands.dynamic = .value a b →
        ¬Confused a b → ((Harness.checkEq operands).run h).value = .fail →
        render a ≠ render b ∧
          ((Harness.checkEq operands).run h).harness.reporter.events =
            h.reporter.events ++ [.outcome ⟨.fail, h.note⟩,
              .debug ("got (" ++ render a ++ "), expected (" ++ render b ++ ")")] := by
  have law (clear : ¬Confused a b) : agrees a b = true ↔ render a = render b :=
    ⟨render_eq_of_agrees, fun alike => agrees_of_render_eq kind alike clear⟩
  refine ⟨law, Confused.render_eq, ?_⟩
  intro operands h values clear fails
  obtain ⟨differ, events⟩ := events_checkEq_of_fail values h fails
  refine ⟨?_, events⟩
  intro alike
  rw [(law clear).mpr alike] at differ
  cases differ

/-- Zeros of opposite sign are told apart, by plain operands too. -/
theorem agrees_iff_render_zeros :
    let a : Value := .double (.zero .double true)
    let b : Value := .double (.zero .double false)
    let h : Harness Tally := { reporter := {}, note := some "zeros" }
    let done := (Harness.checkEq (.double (.zero .double true) (.zero .double false))).run h
    a.kind = b.kind ∧ ¬Confused a b ∧ done.value = .fail ∧ render a ≠ render b ∧
      done.harness.reporter.events =
        [.outcome ⟨.fail, some "zeros"⟩, .debug "got (-0.0), expected (0.0)"] := by
  intro a b h done
  have clear : ¬Confused a b := by simp [a, b, Confused, absent]
  have fails : done.value = .fail := by decide
  obtain ⟨differ, events⟩ := (agrees_iff_render a b rfl).2.2 _ h rfl clear fails
  exact ⟨rfl, clear, fails, differ, events.trans (by decide)⟩

end Value

end CheckHarness
