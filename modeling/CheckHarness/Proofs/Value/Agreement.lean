import CheckHarness.Proofs.Binary.Fields
import CheckHarness.Value

/-!
# Agreement of values

When two values agree can be read off their payloads.  Truth values and integers
agree when they are equal, and objects when both are absent or both show one text.
Two floating-point numbers agree when they have the same bits, with one exception:
any two patterns that are no number agree.

The comparison itself knows nothing of bits.  It asks for equality as numbers, for
zero and for the reciprocals.  `Binary.agrees_iff` follows it through its cases, and
`agrees_iff_alike` is the law for values of every kind.
-/

namespace CheckHarness

namespace Binary

variable {f : Format}

theorem reciprocal_of_isZero {x : Binary f} (zero : x.isZero = true) :
    x.reciprocal = infinity f x.negative := by
  rw [reciprocal, if_neg (by simp [not_isNaN_of_isZero zero]), if_pos zero]

/-- Infinities are equal as numbers when their signs are. -/
theorem numericEq_infinity (proper : f.Proper) (s t : Bool) :
    (infinity f s).numericEq (infinity f t) = true ↔ s = t := by
  simp [numericEq, isZero, infinity, isNaN, Nat.ne_of_gt proper.infinity_pos]

theorem eq_of_isZero {x y : Binary f} (hx : x.isZero = true) (hy : y.isZero = true)
    (sign : x.negative = y.negative) : x = y := by
  obtain ⟨negative, magnitude, _⟩ := x
  obtain ⟨negative', magnitude', _⟩ := y
  simp_all [isZero]

/-- The comparison, case by case.  Equal zeros go through their reciprocals. -/
theorem agrees_iff (proper : f.Proper) (x y : Binary f) :
    x.agrees y = true ↔
      x.isNaN = true ∧ y.isNaN = true ∨ x.isNaN = false ∧ y.isNaN = false ∧ x = y := by
  cases hx : x.isNaN with
  | true => simp [agrees, numericEq, hx]
  | false =>
      cases hy : y.isNaN with
      | true => simp [agrees, numericEq, hx, hy]
      | false =>
          cases zero : x.isZero && y.isZero with
          | true =>
              obtain ⟨zero, zero'⟩ := Bool.and_eq_true_iff.mp zero
              have equal : x.numericEq y = true := by simp [numericEq, hx, hy, zero, zero']
              rw [agrees, if_pos equal, reciprocal_of_isZero zero, reciprocal_of_isZero zero']
              simp only [zero, Bool.not_true, Bool.false_or, numericEq_infinity proper]
              constructor
              · intro sign
                exact Or.inr ⟨trivial, trivial, eq_of_isZero zero zero' sign⟩
              · rintro (⟨nan, _⟩ | ⟨_, _, rfl⟩)
                · cases nan
                · rfl
          | false =>
              by_cases same : x = y
              · subst same
                simp_all [agrees, numericEq]
              · simp [agrees, numericEq, hx, hy, zero, same]

/-- Two numbers are alike when both are no number or their bits are the same. -/
def Alike (x y : Binary f) : Prop :=
  NoNumber f x.toBits ∧ NoNumber f y.toBits ∨
    ¬NoNumber f x.toBits ∧ ¬NoNumber f y.toBits ∧ x.toBits = y.toBits

theorem agrees_iff_alike (proper : f.Proper) (x y : Binary f) :
    x.agrees y = true ↔ x.Alike y := by
  have bits : x = y ↔ x.toBits = y.toBits := ⟨congrArg toBits, toBits_injective⟩
  rw [agrees_iff proper, Alike, ← isNaN_iff, ← isNaN_iff, Bool.not_eq_true, Bool.not_eq_true,
    bits]

/-- The number itself, or one pattern for all that are no number. -/
def canonical (x : Binary f) : Binary f := if x.isNaN then nan f false else x

theorem canonical_canonical (proper : f.Proper) (x : Binary f) :
    x.canonical.canonical = x.canonical := by
  have last := isNaN_nan proper false
  cases nan : x.isNaN with
  | true => simp [canonical, nan, last]
  | false => simp [canonical, nan]

/-- Numbers agree when their canonical forms are equal. -/
theorem agrees_iff_canonical (proper : f.Proper) (x y : Binary f) :
    x.agrees y = true ↔ x.canonical = y.canonical := by
  have last := isNaN_nan proper false
  rw [agrees_iff proper]
  cases hx : x.isNaN with
  | true =>
      cases hy : y.isNaN with
      | true => simp [canonical, hx, hy]
      | false =>
          have ne : nan f false ≠ y := fun same => by simp [← same, last] at hy
          simp [canonical, hx, hy, ne]
  | false =>
      cases hy : y.isNaN with
      | true =>
          have ne : x ≠ nan f false := fun same => by simp [same, last] at hx
          simp [canonical, hx, hy, ne]
      | false => simp [canonical, hx, hy]

end Binary

namespace Value

/-! ## Values -/

/-- Two texts are alike when both are absent or both are there and the same. -/
def TextAlike (s t : Option String) : Prop :=
  s = none ∧ t = none ∨ ∃ text, s = some text ∧ t = some text

/-- Two values are alike when they are of one kind and their payloads are alike. -/
def Alike : Value → Value → Prop
  | .bool a, .bool b => a = b
  | .int a, .int b => a = b
  | .long a, .long b => a = b
  | .float x, .float y => x.Alike y
  | .double x, .double y => x.Alike y
  | .object s, .object t => TextAlike s t
  | _, _ => False

theorem textAlike_iff (s t : Option String) : TextAlike s t ↔ s = t := by
  constructor
  · rintro (⟨rfl, rfl⟩ | ⟨text, rfl, rfl⟩)
    · rfl
    · rfl
  · rintro rfl
    cases s with
    | none => exact Or.inl ⟨rfl, rfl⟩
    | some text => exact Or.inr ⟨text, rfl, rfl⟩

/-- Texts agree when they are equal, and so do absent ones. -/
theorem agrees_text_iff (s t : Option String) : agrees s t = true ↔ s = t := by
  cases s with
  | none =>
      cases t with
      | none => exact iff_of_true rfl rfl
      | some t => exact iff_of_false Bool.false_ne_true (by rintro ⟨⟩)
  | some s =>
      cases t with
      | none => exact iff_of_false Bool.false_ne_true (by rintro ⟨⟩)
      | some t => exact beq_iff_eq.trans ⟨congrArg some, Option.some.inj⟩

theorem agrees_iff_alike (a b : Value) : agrees a b = true ↔ a.Alike b := by
  cases a <;> cases b
  case bool.bool a b => exact beq_iff_eq
  case int.int a b => exact beq_iff_eq
  case long.long a b => exact beq_iff_eq
  case float.float x y => exact Binary.agrees_iff_alike Format.proper_single x y
  case double.double x y => exact Binary.agrees_iff_alike Format.proper_double x y
  case object.object s t => exact (agrees_text_iff s t).trans (textAlike_iff s t).symm
  -- No two kinds agree.
  all_goals exact iff_of_false Bool.false_ne_true id

/-- The value with its number in canonical form. -/
def canonical : Value → Value
  | .float x => .float x.canonical
  | .double x => .double x.canonical
  | value => value

/-- Values agree when their canonical forms are equal. -/
theorem agrees_iff_canonical (a b : Value) : agrees a b = true ↔ a.canonical = b.canonical := by
  cases a <;> cases b
  case bool.bool a b => exact beq_iff_eq.trans ⟨congrArg bool, bool.inj⟩
  case int.int a b => exact beq_iff_eq.trans ⟨congrArg int, int.inj⟩
  case long.long a b => exact beq_iff_eq.trans ⟨congrArg long, long.inj⟩
  case float.float x y =>
      exact (Binary.agrees_iff_canonical Format.proper_single x y).trans
        ⟨congrArg float, float.inj⟩
  case double.double x y =>
      exact (Binary.agrees_iff_canonical Format.proper_double x y).trans
        ⟨congrArg double, double.inj⟩
  case object.object s t => exact (agrees_text_iff s t).trans ⟨congrArg object, object.inj⟩
  -- No two kinds agree.
  all_goals exact iff_of_false Bool.false_ne_true (by rintro ⟨⟩)

/-- The law of agreement.  Values agree when they are alike, and agreement is an
equivalence. -/
theorem agrees_law :
    (∀ a b : Value, agrees a b = true ↔ a.Alike b) ∧
      Equivalence fun a b : Value => agrees a b = true := by
  refine ⟨agrees_iff_alike, ?_, ?_, ?_⟩
  · intro a
    exact (agrees_iff_canonical a a).mpr rfl
  · intro a b same
    exact (agrees_iff_canonical b a).mpr ((agrees_iff_canonical a b).mp same).symm
  · intro a b c same same'
    exact (agrees_iff_canonical a c).mpr
      (((agrees_iff_canonical a b).mp same).trans ((agrees_iff_canonical b c).mp same'))

end Value

end CheckHarness
