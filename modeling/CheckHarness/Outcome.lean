/-!
# Outcomes

A check either holds or does not, and is either an ordinary check or a *todo*, a
check that is known to be broken.  The four combinations are the four outcomes.
A todo that does not hold is expected.  A todo that holds is worth a look, so it
counts as a failure, just as an ordinary check that does not hold.

`isFailure_ofCheck` and `isFailure_ofTodo` say that the two readings of a
condition are opposite.
-/

namespace CheckHarness

/-- The classification of one check. -/
inductive Outcome where
  /-- An ordinary check that holds. -/
  | pass
  /-- An ordinary check that does not hold. -/
  | fail
  /-- A todo that holds unexpectedly. -/
  | todoPass
  /-- A todo that does not hold, as expected. -/
  | todoFail
deriving DecidableEq, Repr

namespace Outcome

/-- The outcome of an ordinary check. -/
def ofCheck (ok : Bool) : Outcome := if ok then .pass else .fail

/-- The outcome of a todo. -/
def ofTodo (ok : Bool) : Outcome := if ok then .todoPass else .todoFail

/-- The outcomes a run is flagged for. -/
def isFailure : Outcome → Bool
  | .fail | .todoPass => true
  | .pass | .todoFail => false

/-- The outcomes of todos. -/
def isTodo : Outcome → Bool
  | .todoPass | .todoFail => true
  | .pass | .fail => false

/-- The word an outcome is printed as. -/
def label : Outcome → String
  | .pass => "PASS"
  | .fail => "FAIL"
  | .todoPass => "XPASS"
  | .todoFail => "XFAIL"

@[simp] theorem isFailure_ofCheck (ok : Bool) : (ofCheck ok).isFailure = !ok := by
  cases ok <;> rfl

@[simp] theorem isFailure_ofTodo (ok : Bool) : (ofTodo ok).isFailure = ok := by
  cases ok <;> rfl

@[simp] theorem isTodo_ofCheck (ok : Bool) : (ofCheck ok).isTodo = false := by
  cases ok <;> rfl

@[simp] theorem isTodo_ofTodo (ok : Bool) : (ofTodo ok).isTodo = true := by
  cases ok <;> rfl

end Outcome

end CheckHarness
