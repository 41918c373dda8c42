import CheckHarness.Value

/-!
# Operands of a comparison

What a comparison compares: a result and the expected value.  Both have the same
plain type, or both are dynamic values.  Objects of a plain type enter as the
texts they show, since nothing else about them is compared.

`Operands.dynamic` turns operands of a plain type into dynamic values.
-/

namespace CheckHarness

/-! ## Plain values -/

/-- A value of one of the plain types that are not objects. -/
inductive Primitive where
  | bool (b : Bool)
  | int (n : Int32)
  | long (n : Int64)
  | float (x : Single)
  | double (x : Double)
deriving DecidableEq

namespace Primitive

/-- The same value with its kind. -/
def toValue : Primitive → Value
  | .bool b => .bool b
  | .int n => .int n
  | .long n => .long n
  | .float x => .float x
  | .double x => .double x

instance : Shown Primitive where
  shown
    | .bool b => shown b
    | .int n => shown n
    | .long n => shown n
    | .float x => shown x
    | .double x => shown x

end Primitive

/-- The primitive inside a dynamic value, unless it is an object. -/
def Value.primitive? : Value → Option Primitive
  | .bool b => some (.bool b)
  | .int n => some (.int n)
  | .long n => some (.long n)
  | .float x => some (.float x)
  | .double x => some (.double x)
  | .object _ => none

/-- A value of a plain type. -/
inductive Plain where
  | primitive (p : Primitive)
  /-- An object that is itself a text, or is absent. -/
  | text (object : Option String)
  /-- An object that wraps a primitive. -/
  | wrapped (p : Primitive)
deriving DecidableEq

/-- The dynamic value of a plain one. -/
def Plain.toValue : Plain → Value
  | .primitive p => p.toValue
  | .text object => .object object
  | .wrapped p => .showing p

/-! ## Operands -/

/-- A result and the expected value. -/
inductive Operands where
  | bool (result expected : Bool)
  | int (result expected : Int32)
  | long (result expected : Int64)
  | float (result expected : Single)
  | double (result expected : Double)
  /-- Objects by the texts they show. -/
  | object (result expected : Option String)
  /-- Dynamic values. -/
  | value (result expected : Value)
deriving DecidableEq

namespace Operands

/-- Objects of any type that shows a text. -/
def ofObjects {α : Type} [Shown α] (result expected : Option α) : Operands :=
  .object (result.map shown) (expected.map shown)

/-- Two primitives of the same type. -/
def ofPrimitives? : Primitive → Primitive → Option Operands
  | .bool result, .bool expected => some (.bool result expected)
  | .int result, .int expected => some (.int result expected)
  | .long result, .long expected => some (.long result expected)
  | .float result, .float expected => some (.float result expected)
  | .double result, .double expected => some (.double result expected)
  | _, _ => none

/-- Two values of the same plain type. -/
def ofPlain? : Plain → Plain → Option Operands
  | .primitive result, .primitive expected => ofPrimitives? result expected
  | .text result, .text expected => some (.object result expected)
  | .wrapped result, .wrapped expected =>
    (ofPrimitives? result expected).map fun _ => ofObjects (some result) (some expected)
  | _, _ => none

/-- Whether the result agrees with the expected value. -/
def agree : Operands → Bool
  | .bool result expected => agrees result expected
  | .int result expected => agrees result expected
  | .long result expected => agrees result expected
  | .float result expected => agrees result expected
  | .double result expected => agrees result expected
  | .object result expected => agrees result expected
  | .value result expected => agrees result expected

/-- The text of the result. -/
def result : Operands → String
  | .bool result _ => render result
  | .int result _ => render result
  | .long result _ => render result
  | .float result _ => render result
  | .double result _ => render result
  | .object result _ => render result
  | .value result _ => render result

/-- The text of the expected value. -/
def expected : Operands → String
  | .bool _ expected => render expected
  | .int _ expected => render expected
  | .long _ expected => render expected
  | .float _ expected => render expected
  | .double _ expected => render expected
  | .object _ expected => render expected
  | .value _ expected => render expected

/-- The same operands as dynamic values. -/
def dynamic : Operands → Operands
  | .bool result expected => .value (.bool result) (.bool expected)
  | .int result expected => .value (.int result) (.int expected)
  | .long result expected => .value (.long result) (.long expected)
  | .float result expected => .value (.float result) (.float expected)
  | .double result expected => .value (.double result) (.double expected)
  | .object result expected => .value (.object result) (.object expected)
  | .value result expected => .value result expected

@[simp] theorem agree_dynamic (o : Operands) : o.dynamic.agree = o.agree := by
  cases o <;> rfl

@[simp] theorem result_dynamic (o : Operands) : o.dynamic.result = o.result := by
  cases o <;> rfl

@[simp] theorem expected_dynamic (o : Operands) : o.dynamic.expected = o.expected := by
  cases o <;> rfl

end Operands

end CheckHarness
