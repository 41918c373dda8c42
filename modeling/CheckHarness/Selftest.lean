import CheckHarness.Testlet

/-!
# The self test

Testlets that try the rules of agreement on the harness itself.  They run like any
other testlet, so a broken rule shows as a failure.

A filter keeps the testlets whose names contain it.
-/

namespace CheckHarness.Selftest

/-! ## The testlets -/

/-- The double one. -/
def one : Double := .ofDecimal .double false 1 0

/-- The double two. -/
def two : Double := .ofDecimal .double false 2 0

/-- Truth values and integers agree when they are equal. -/
def primitives : Testlet where
  name := "primitives"
  body :=
    [ .checkEqNoted (.bool true true) "bool",
      .checkEq (.bool false false),
      .checkEqNoted (.int Int32.maxValue Int32.maxValue) "int",
      .checkEq (.int Int32.minValue Int32.minValue),
      .checkEqNoted (.long Int64.minValue Int64.minValue) "long",
      .checkEqNoted (.bool (agrees (1 : Int32) 2) false) "int mismatch",
      .checkEqNoted
        (.bool (agrees (Int32.maxValue.toInt64 + 1) Int32.minValue.toInt64) false)
        "long does not wrap" ]

/-- Zeros agree only with zeros of the same sign. -/
def floatZero : Testlet where
  name := "float-zero"
  body :=
    [ .checkEqNoted (.double (.zero _ false) (.zero _ false)) "double +0",
      .checkEqNoted (.double (.zero _ true) (.zero _ true)) "double -0",
      .checkEqNoted (.float (.zero _ false) (.zero _ false)) "float +0",
      .checkEqNoted
        (.bool (agrees (Binary.zero .double false) (.zero _ true)) false) "double +0 vs -0",
      .checkEqNoted
        (.bool (agrees (Binary.zero .single true) (.zero _ false)) false) "float -0 vs +0",
      .checkEqNoted
        (.double (Binary.zero .double true).reciprocal (.infinity _ true)) "reciprocal of -0",
      .checkEqNoted (.bool (agrees one two) false) "distinct values" ]

/-- What is no number agrees with itself and with no number.  The square root of a
negative number is no number. -/
def floatNaN : Testlet where
  name := "float-nan"
  body :=
    [ .checkEqNoted (.double (.nan _ false) (.nan _ false)) "double NaN",
      .checkEqNoted (.float (.nan _ false) (.nan _ false)) "float NaN",
      .checkEqNoted (.bool (agrees (Binary.nan .double false) one) false) "NaN vs 1.0",
      .checkEqNoted (.bool (agrees one (.nan _ false)) false) "1.0 vs NaN",
      .checkEqNoted (.double (.nan _ true) (.nan _ false)) "sqrt(-1)" ]

/-- Objects agree when they show the same text, and the absent object only with itself. -/
def objects : Testlet where
  name := "objects"
  body :=
    [ .checkEqNoted (.value (.showing (1234 : Int32)) (.showing "1234")) "textual form",
      .checkEqNoted (.value .absent .absent) "absent",
      .checkEqNoted
        (.bool (agrees Value.absent (.showing "null")) false) "absent vs \"null\"",
      .checkEqNoted (.bool (agrees (some "a") (some "b")) false) "distinct text" ]

/-- Todos that fail, as todos should. -/
def todo : Testlet where
  name := "todo"
  body :=
    [ .todoEqNoted (.long 1 2) "expected failure",
      .todoNoted false "expected failure" ]

/-- Every testlet, in the order they run. -/
def all : List Testlet := [primitives, floatZero, floatNaN, objects, todo]

/-! ## Filters -/

/-- Whether a text occurs in another. -/
def occursIn (part : List Char) : List Char → Bool
  | [] => part = []
  | c :: rest => part.isPrefixOf (c :: rest) || occursIn part rest

/-- The testlets whose names contain a filter. -/
def matching (filter : String) : List Testlet :=
  all.filter fun testlet => occursIn filter.toList testlet.name.toList

/-- The testlets that an optional filter keeps. -/
def selected : Option String → List Testlet
  | none => all
  | some filter => matching filter

end CheckHarness.Selftest
