import CheckHarness.Binary.Notation

/-!
# Values that can be checked

A checkable type says when a result agrees with what was expected, and how a value
is written in a diagnostic.  Truth values and integers agree when they are equal.
Floating-point numbers agree when they are equal as numbers, with two changes:
zeros of opposite sign do not agree, and what is no number agrees with itself.
Objects are compared by the text they show.  The absent object agrees only with
itself, though it is written like an object that shows `null`.
-/

namespace CheckHarness

/-- Types whose values show a plain text. -/
class Shown (α : Type) where
  /-- The plain text. -/
  shown : α → String

/-- Types whose values can be checked against an expected value. -/
class Checkable (α : Type) where
  /-- Whether the result agrees with the expected value. -/
  agrees : (result expected : α) → Bool
  /-- The text in a diagnostic. -/
  render : α → String

export Shown (shown)
export Checkable (agrees render)

/-! ## Truth values and integers -/

instance : Shown String := ⟨id⟩

instance : Shown Bool := ⟨fun b => if b then "true" else "false"⟩

instance : Shown Int32 := ⟨fun n => n.toInt.repr⟩

instance : Shown Int64 := ⟨fun n => n.toInt.repr⟩

instance : Checkable Bool := ⟨fun result expected => result == expected, shown⟩

instance : Checkable Int32 := ⟨fun result expected => result == expected, shown⟩

instance : Checkable Int64 := ⟨fun result expected => result == expected, shown⟩

/-! ## Floating-point numbers -/

/-- Whether two numbers agree.  Equal zeros are told apart by their reciprocals,
which are infinities of the zeros' signs. -/
def Binary.agrees {f : Format} (result expected : Binary f) : Bool :=
  if result.numericEq expected then
    !result.isZero || result.reciprocal.numericEq expected.reciprocal
  else result.isNaN && expected.isNaN

instance {f : Format} : Shown (Binary f) := ⟨Binary.plain⟩

instance {f : Format} : Checkable (Binary f) := ⟨Binary.agrees, Binary.diagnostic⟩

/-! ## Objects -/

/-- The text of the absent object. -/
def absentText : String := "null"

instance {α : Type} [Shown α] : Checkable (Option α) where
  agrees
    | none, none => true
    | some result, some expected => shown result == shown expected
    | _, _ => false
  render
    | some object => shown object
    | none => absentText

end CheckHarness
