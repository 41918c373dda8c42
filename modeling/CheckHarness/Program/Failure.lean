import CheckHarness.SettingsFile
import CheckHarness.Value

/-!
# Failures

A failure stops the program before any check: the settings could not be loaded, or
one of two operands could not be read.

It is shown as its context and the causes below it.  A single cause stands indented
on its own.  Several causes are numbered.  The further lines of a cause are indented
as far as its first.
-/

namespace CheckHarness.Program

/-- Why a run stopped before any check. -/
inductive Failure where
  /-- The settings at a path could not be loaded. -/
  | settings (path : String) (cause : SettingsError)
  /-- The result could not be read. -/
  | result (cause : InvalidValue)
  /-- The expected value could not be read. -/
  | expected (cause : InvalidValue)
deriving DecidableEq, Repr

namespace Failure

/-! ## What failed and why -/

/-- What failed. -/
def context : Failure → String
  | .settings path _ => "Failed to load config " ++ Quoted.quote path
  | .result _ => "Invalid RESULT"
  | .expected _ => "Invalid EXPECTED"

/-- Why it failed, the outermost cause first. -/
def causes : Failure → List String
  | .settings _ cause => cause.messages
  | .result cause => [cause.message]
  | .expected cause => [cause.message]

/-! ## Lines -/

/-- The lines of a text, the first behind one start and the others behind another. -/
def indented (first others text : String) : List String :=
  match text.splitOn "\n" with
  | [] => []
  | line :: lines => (first ++ line) :: lines.map (others ++ ·)

/-- The lines of a cause with a number. -/
def numbered (cause : String × Nat) : List String :=
  indented ("    " ++ cause.2.repr ++ ": ") "       " cause.1

/-- The lines of the causes. -/
def causeLines : List String → List String
  | [cause] => indented "    " "    " cause
  | causes => causes.zipIdx.flatMap numbered

/-- The lines a failure is shown as. -/
def lines (failure : Failure) : List String :=
  ["Error: " ++ failure.context, "", "Caused by:"] ++ causeLines failure.causes

end Failure

end CheckHarness.Program
