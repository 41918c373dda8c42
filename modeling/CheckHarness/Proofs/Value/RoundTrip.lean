import CheckHarness.Proofs.Binary.Notation

/-!
# Rendered values read back

A value is rendered to a text that its kind reads again.  `parse_render` gives the
result of the reading: the value in canonical form, except that the object which shows
the word for absence comes back absent.  So the result agrees with the value for every
other value, which is `parse_render_agrees`.

One lemma for each kind says what the kind reads of its own texts.
-/

namespace CheckHarness

namespace Value

/-! ## The kinds -/

theorem boolOfText?_shown (b : Bool) : boolOfText? (shown b) = some b := by
  cases b with
  | false => rfl
  | true => rfl

/-- An integer within bounds reads back. -/
theorem integerWithin?_repr {least greatest n : Int} (above : least ≤ n) (below : n ≤ greatest) :
    integerWithin? least greatest n.repr = some n := by
  rw [integerWithin?, ← Int.toString_eq_repr, integerOfText?_toString]
  exact Option.filter_some_pos (decide_eq_true ⟨above, below⟩)

/-- A number of a format reads back. -/
theorem binaryOfText?_diagnostic {f : Format} (proper : f.Proper) (x : Binary f) :
    binaryOfText? f x.diagnostic = some x.canonical :=
  Binary.ofNumeral_diagnostic proper x

/-! ## Every value -/

/-- What a rendered value reads back as. -/
def readBack : Value → Value
  | .object text => .object (if render text = absentText then none else text)
  | value => value.canonical

/-- A rendered value reads back. -/
theorem parse_render (v : Value) : parse v.kind (render v) = .ok v.readBack := by
  have read : ofText? v.kind (render v) = some v.readBack := by
    cases v with
    | bool b =>
        exact congrArg (Option.map Value.bool) (boolOfText?_shown b)
    | int n =>
        have value := integerWithin?_repr n.minValue_le_toInt n.toInt_le
        refine (congrArg (Option.map fun n => Value.int (Int32.ofInt n)) value).trans ?_
        rw [Option.map_some, Int32.ofInt_toInt]
        rfl
    | long n =>
        have value := integerWithin?_repr n.minValue_le_toInt n.toInt_le
        refine (congrArg (Option.map fun n => Value.long (Int64.ofInt n)) value).trans ?_
        rw [Option.map_some, Int64.ofInt_toInt]
        rfl
    | float x =>
        exact congrArg (Option.map Value.float) (binaryOfText?_diagnostic Format.proper_single x)
    | double x =>
        exact congrArg (Option.map Value.double) (binaryOfText?_diagnostic Format.proper_double x)
    | object text =>
        cases text with
        | none => rfl
        | some text => rfl
  rw [parse, read]

/-- Only the object that shows the word for absence loses something. -/
theorem agrees_readBack (v : Value) :
    agrees v.readBack v = true ↔ v ≠ .object (some absentText) := by
  rw [agrees_iff_canonical]
  cases v with
  | bool b => simp [readBack, canonical]
  | int n => simp [readBack, canonical]
  | long n => simp [readBack, canonical]
  | float x => simp [readBack, canonical, Binary.canonical_canonical Format.proper_single]
  | double x => simp [readBack, canonical, Binary.canonical_canonical Format.proper_double]
  | object text =>
      cases text with
      | none => simp [readBack, canonical]
      | some text =>
          by_cases absent : text = absentText
          · simp [readBack, canonical, absent, render, shown]
          · simp [readBack, canonical, absent, render, shown]

/-- Reading undoes rendering.  Every value reads back at its own kind, and the result
agrees with the value unless it is the object that shows the word for absence, which
comes back absent. -/
theorem parse_render_agrees (v : Value) :
    ∃ w, parse v.kind (render v) = .ok w ∧
      (agrees w v = true ↔ v ≠ .object (some absentText)) ∧
      (v = .object (some absentText) → w = absent) := by
  refine ⟨v.readBack, v.parse_render, v.agrees_readBack, ?_⟩
  rintro rfl
  rfl

end Value

end CheckHarness
