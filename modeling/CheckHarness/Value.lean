import CheckHarness.Binary.Numeral
import CheckHarness.Checkable
import CheckHarness.Text.Quoted

/-!
# Dynamic values

A value whose kind is chosen at run time.  Values of different kinds never agree.
An object is kept as the text it shows.

`Value.parse` reads a text at a kind.  The texts of objects are taken as they
stand, except that the word `null` is the absent object.  All other kinds refuse
texts that they do not know, and the refusal says which kind refused which text.
-/

namespace CheckHarness

/-! ## Kinds -/

/-- The kinds of values. -/
inductive Kind where
  | bool
  | int
  | long
  | float
  | double
  | object
deriving DecidableEq, Repr

namespace Kind

/-- Every kind. -/
def all : List Kind := [.bool, .int, .long, .float, .double, .object]

/-- The word for a kind. -/
def name : Kind → String
  | .bool => "bool"
  | .int => "int"
  | .long => "long"
  | .float => "float"
  | .double => "double"
  | .object => "object"

/-- The kind of a word. -/
def ofName? (word : String) : Option Kind := all.find? fun kind => kind.name = word

/-- The kind of a word in any letter case.  Only letters of ASCII have two cases. -/
def ofNameAnyCase? (word : String) : Option Kind := ofName? (word.map Char.toLower)

@[simp] theorem ofName?_name (kind : Kind) : ofName? kind.name = some kind := by
  cases kind <;> decide

end Kind

/-! ## Values -/

/-- A value of a kind chosen at run time. -/
inductive Value where
  | bool (b : Bool)
  | int (n : Int32)
  | long (n : Int64)
  | float (x : Single)
  | double (x : Double)
  /-- The text an object shows, or nothing for the absent object. -/
  | object (text : Option String)
deriving DecidableEq

namespace Value

/-- The kind of a value. -/
def kind : Value → Kind
  | .bool _ => .bool
  | .int _ => .int
  | .long _ => .long
  | .float _ => .float
  | .double _ => .double
  | .object _ => .object

/-- The absent object. -/
def absent : Value := .object none

/-- The object that shows what the given value shows. -/
def showing {α : Type} [Shown α] (x : α) : Value := .object (some (shown x))

instance : Checkable Value where
  agrees
    | .bool result, .bool expected => agrees result expected
    | .int result, .int expected => agrees result expected
    | .long result, .long expected => agrees result expected
    | .float result, .float expected => agrees result expected
    | .double result, .double expected => agrees result expected
    | .object result, .object expected => agrees result expected
    | _, _ => false
  render
    | .bool b => render b
    | .int n => render n
    | .long n => render n
    | .float x => render x
    | .double x => render x
    | .object text => render text

/-- Equality as the payloads have it: numbers compare as numbers. -/
def equals : Value → Value → Bool
  | .float x, .float y => x.numericEq y
  | .double x, .double y => x.numericEq y
  | x, y => x = y

end Value

/-! ## Reading -/

/-- A text that is no value of a kind. -/
structure InvalidValue where
  kind : Kind
  input : String
deriving DecidableEq, Repr

/-- The message of a refused text. -/
def InvalidValue.message (e : InvalidValue) : String :=
  "Invalid " ++ e.kind.name ++ " value: " ++ Quoted.quote e.input

namespace Value

/-- A truth value, as one of its two words. -/
def boolOfText? (text : String) : Option Bool :=
  if text = "true" then some true else if text = "false" then some false else none

/-- An integer between two bounds. -/
def integerWithin? (least greatest : Int) (text : String) : Option Int :=
  (integerOfText? text.toList).filter fun n => least ≤ n ∧ n ≤ greatest

/-- A floating-point number of a format. -/
def binaryOfText? (f : Format) (text : String) : Option (Binary f) :=
  (Numeral.ofText? text.toList).map (Binary.ofNumeral f)

/-- The value of a kind that a text denotes, if any. -/
def ofText? (kind : Kind) (text : String) : Option Value :=
  match kind with
  | .bool => (boolOfText? text).map .bool
  | .int =>
    (integerWithin? Int32.minValue.toInt Int32.maxValue.toInt text).map fun n =>
      .int (Int32.ofInt n)
  | .long =>
    (integerWithin? Int64.minValue.toInt Int64.maxValue.toInt text).map fun n =>
      .long (Int64.ofInt n)
  | .float => (binaryOfText? .single text).map .float
  | .double => (binaryOfText? .double text).map .double
  | .object => some (.object (if text = absentText then none else some text))

/-- Reads a text at a kind. -/
def parse (kind : Kind) (text : String) : Except InvalidValue Value :=
  match ofText? kind text with
  | some value => .ok value
  | none => .error ⟨kind, text⟩

end Value

end CheckHarness
