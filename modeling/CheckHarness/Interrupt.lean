/-!
# Interrupts

An interrupt ends a sleep early.  It stays *pending* until a sleep notices it, and
the sleep that notices it clears it.  So an interrupt is never lost, and any number
of interrupts before one sleep count as one.

A handle belongs to a family.  A clone joins the family of the handle it is made
from, and all handles of a family share what is pending.  `Handles` keeps a
numbered list of handles with the families they belong to.
-/

namespace CheckHarness

/-! ## One flag -/

/-- Whether an interrupt is pending. -/
structure Interrupt where
  pending : Bool := false
deriving DecidableEq, Repr

namespace Interrupt

/-- Leaves an interrupt pending. -/
def raise (_ : Interrupt) : Interrupt := ⟨true⟩

/-- A sleep, with whether it was interrupted.  Only its length would tell an
uninterrupted sleep from another, so the length plays no part. -/
def sleep (interrupt : Interrupt) : Bool × Interrupt := (interrupt.pending, ⟨false⟩)

/-- How an interrupt is shown. -/
def shown (interrupt : Interrupt) : String :=
  "Interrupt \x7b pending: " ++ (if interrupt.pending then "true" else "false") ++ " \x7d"

end Interrupt

/-! ## Families of handles -/

/-- Numbered handles. -/
structure Handles where
  /-- The family of each handle. -/
  family : List Nat := [0]
  /-- The flag of each family. -/
  flags : List Interrupt := [{}]
deriving DecidableEq, Repr

namespace Handles

/-- What is done to handles. -/
inductive Op where
  /-- A handle of a new family. -/
  | new
  /-- A handle of the same family. -/
  | clone (handle : Nat)
  | interrupt (handle : Nat)
  | sleep (handle : Nat) (millis : Nat)
deriving DecidableEq, Repr

/-- What an operation answers. -/
inductive Answer where
  /-- The number of a handle that was made. -/
  | made (handle : Nat)
  | done
  | slept (interrupted : Bool)
deriving DecidableEq, Repr

/-- The flag of the family of a handle. -/
def flag (handles : Handles) (handle : Nat) : Interrupt :=
  (handles.family[handle]?.bind fun family => handles.flags[family]?).getD {}

/-- The same handles after the flag of the family of a handle has changed. -/
def setFlag (handles : Handles) (handle : Nat) (flag : Interrupt) : Handles :=
  match handles.family[handle]? with
  | some family => { handles with flags := handles.flags.set family flag }
  | none => handles

/-- One operation.  An operation on a handle that does not exist changes nothing. -/
def step (handles : Handles) : Op → Answer × Handles
  | .new =>
    (.made handles.family.length,
      ⟨handles.family ++ [handles.flags.length], handles.flags ++ [{}]⟩)
  | .clone handle =>
    (.made handles.family.length,
      { handles with family := handles.family ++ handles.family[handle]?.toList })
  | .interrupt handle => (.done, handles.setFlag handle (handles.flag handle).raise)
  | .sleep handle _ =>
    let (interrupted, flag) := (handles.flag handle).sleep
    (.slept interrupted, handles.setFlag handle flag)

/-- Whether an interrupt is pending, for each handle. -/
def pending (handles : Handles) : List Bool :=
  (List.range handles.family.length).map fun handle => (handles.flag handle).pending

end Handles

end CheckHarness
