import CheckHarness.Interrupt

/-!
# Threads that share a flag

Any number of threads interrupt and sleep on clones of one handle.  What a thread does
while it holds the lock of the flag is one step, because no other thread gets in between.

* An interrupt is two steps.  The first sets the flag and releases the lock.  The second
  notifies all who wait.
* A sleep fixes its deadline and then looks at the flag.  A look that finds the flag set
  clears it and ends the sleep.  Otherwise a look past the deadline ends the sleep.
  Otherwise the thread starts to wait, and the lock is released in the same step.
* A thread stops waiting once it is notified, once its deadline has passed, or for no
  reason at all.  Then it looks again.

Time passes between the steps.  `Run` is what any interleaving of them can lead to.
-/

namespace CheckHarness

/-! ## Where threads are -/

/-- Where a thread is. -/
inductive Phase where
  /-- No call of the thread is under way. -/
  | free
  /-- The thread has set the flag and has not notified anyone yet. -/
  | notifying
  /-- The thread is in a sleep and about to look at the flag. -/
  | looking (deadline : Nat)
  /-- The thread is in a sleep and waits. -/
  | waiting (deadline : Nat) (notified : Bool)
deriving DecidableEq, Repr

namespace Phase

/-- The phase after everyone who waits is notified. -/
def notify : Phase → Phase
  | .waiting deadline _ => .waiting deadline true
  | phase => phase

/-- The deadline of the sleep that is under way. -/
def deadline? : Phase → Option Nat
  | .looking deadline | .waiting deadline _ => some deadline
  | .free | .notifying => none

end Phase

/-- Threads that share a flag. -/
structure Threads (τ : Type) where
  flag : Interrupt := {}
  /-- The time that has passed. -/
  clock : Nat := 0
  phase : τ → Phase := fun _ => .free

namespace Threads

variable {τ : Type}

/-! ## Looking at the flag -/

/-- What comes of a look at the flag. -/
inductive Sight where
  /-- An interrupt is noticed, and the sleep ends early. -/
  | interrupted
  /-- The deadline has passed, and the sleep ends well. -/
  | elapsed
  /-- The thread starts to wait. -/
  | waits
deriving DecidableEq, Repr

/-- What comes of a look in a sleep with a deadline.  The flag goes first. -/
def sight (s : Threads τ) (deadline : Nat) : Sight :=
  if s.flag.sleep.1 then .interrupted else if deadline ≤ s.clock then .elapsed else .waits

/-- Where a thread is after a look in a sleep with a deadline. -/
def Sight.next (deadline : Nat) : Sight → Phase
  | .interrupted | .elapsed => .free
  | .waits => .waiting deadline false

/-- Why a thread stops waiting. -/
inductive Cause where
  | notified
  | timedOut
  | spurious
deriving DecidableEq, Repr

/-- Whether a cause can end the wait of a thread. -/
def Cause.Ends (clock deadline : Nat) (notified : Bool) : Cause → Prop
  | .notified => notified = true
  | .timedOut => deadline ≤ clock
  | .spurious => True

/-! ## Steps -/

/-- What happens in a step. -/
inductive Act (τ : Type) where
  /-- An interrupt sets the flag. -/
  | set (thread : τ)
  /-- The same interrupt notifies all who wait. -/
  | notify (thread : τ)
  /-- A sleep of some length starts. -/
  | sleep (thread : τ) (length : Nat)
  /-- A thread in a sleep looks at the flag. -/
  | look (thread : τ) (sight : Sight)
  /-- A thread stops waiting. -/
  | leave (thread : τ) (cause : Cause)
  /-- Time passes. -/
  | pass (time : Nat)
deriving DecidableEq, Repr

variable [DecidableEq τ]

/-- The threads after one of them has gone somewhere. -/
def move (s : Threads τ) (thread : τ) (phase : Phase) : Threads τ :=
  { s with phase := fun other => if other = thread then phase else s.phase other }

/-- The steps. -/
inductive Step : Threads τ → Act τ → Threads τ → Prop where
  | set {s : Threads τ} {thread : τ} (free : s.phase thread = .free) :
      Step s (.set thread) ({ s with flag := s.flag.raise }.move thread .notifying)
  | notify {s : Threads τ} {thread : τ} (owes : s.phase thread = .notifying) :
      Step s (.notify thread)
        ({ s with phase := fun other => (s.phase other).notify }.move thread .free)
  | sleep {s : Threads τ} {thread : τ} (length : Nat) (free : s.phase thread = .free) :
      Step s (.sleep thread length) (s.move thread (.looking (s.clock + length)))
  | look {s : Threads τ} {thread : τ} {deadline : Nat}
      (looking : s.phase thread = .looking deadline) :
      Step s (.look thread (s.sight deadline))
        ({ s with flag := s.flag.sleep.2 }.move thread ((s.sight deadline).next deadline))
  | leave {s : Threads τ} {thread : τ} {deadline : Nat} {notified : Bool} {cause : Cause}
      (waiting : s.phase thread = .waiting deadline notified)
      (ends : cause.Ends s.clock deadline notified) :
      Step s (.leave thread cause) (s.move thread (.looking deadline))
  | pass {s : Threads τ} (time : Nat) :
      Step s (.pass time) { s with clock := s.clock + time }

/-- What happened so far, oldest first, and where it has led to. -/
inductive Run : List (Act τ) → Threads τ → Prop where
  | start : Run [] {}
  | step {acts : List (Act τ)} {act : Act τ} {s s' : Threads τ} (run : Run acts s)
      (step : Step s act s') : Run (acts ++ [act]) s'

/-! ## Where a move leaves the threads -/

section Moves

variable (s : Threads τ) (thread : τ) (phase : Phase)

@[simp] theorem flag_move : (s.move thread phase).flag = s.flag := rfl

@[simp] theorem phase_move_self : (s.move thread phase).phase thread = phase := if_pos rfl

theorem phase_move_of_ne {other : τ} (ne : other ≠ thread) :
    (s.move thread phase).phase other = s.phase other := if_neg ne

end Moves

end Threads

end CheckHarness
