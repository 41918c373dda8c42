import CheckHarness.Pattern.Basic
import CheckHarness.Pattern.Encoding

/-!
# Room

How much room a pattern takes once it is compiled to an automaton over bytes.
Repetitions are written out, so a short pattern may take much.  It is compiled once
for reading forward and once for reading backward, and neither may take too much.

An automaton is made of states.  A state that branches takes more room by its
branches.  A set becomes an automaton of its own.  Read forward, its sequences of
bytes share whatever can follow; read backward, they share what they start with.
Where groups start and stop is only kept when reading forward.
-/

namespace CheckHarness.Pattern

/-- How a text is read. -/
inductive Direction where
  | forward
  | backward
deriving DecidableEq, Repr

/-- The room that a pattern may take, in bytes. -/
def roomLimit : Nat := 10485760

/-- The room of a state. -/
def stateRoom : Nat := 32

/-- The room of a branch to another state. -/
def branchRoom : Nat := 4

/-- The room of a branch to another state by a range of bytes. -/
def rangeRoom : Nat := 8

/-- The room of a state with two branches. -/
def forkRoom : Nat := stateRoom + 2 * branchRoom

/-- Whether a set has one code point only. -/
def CharSet.isOne (set : CharSet) : Bool :=
  match set.ranges with
  | [(first, last)] => first = last
  | _ => false

/-- The room of all parts. -/
def totalRoom (rooms : List Nat) : Nat := rooms.foldr (· + ·) 0

/-- The room of a set. -/
def CharSet.room (direction : Direction) (set : CharSet) : Nat :=
  let sequences := ByteSequence.ofSet set
  if set.isOne then stateRoom * totalRoom (sequences.map List.length)
  else if sequences.all fun s => s.length = 1 then
    2 * stateRoom + rangeRoom * sequences.length
  else
    match direction with
    | .forward =>
      let room (state : List ByteSequence) : Nat :=
        stateRoom + rangeRoom * (ByteSequence.heads state).length
      stateRoom + totalRoom ((ByteSequence.states sequences).map room)
    | .backward =>
      2 * stateRoom + branchRoom * sequences.length +
        stateRoom * (ByteSequence.starts sequences).length

/-- Whether a pattern takes at least one character whatever the text. -/
def takesSomething : Pattern → Bool
  | .empty => false
  | .one _ => true
  | .edge _ _ => false
  | .group pattern => takesSomething pattern
  | .both first second => takesSomething first || takesSomething second
  | .either first second => takesSomething first && takesSomething second
  | .repeated least _ pattern => least ≠ 0 && takesSomething pattern

/-- The room of a repetition, from the room of a round. -/
def repeatedRoom (round : Nat) (isIdle : Bool) : Nat → Option Nat → Nat
  | 0, none => if isIdle then round + 2 * forkRoom + stateRoom else round + forkRoom
  | least, none => least * round + forkRoom
  | 0, some 1 => forkRoom + round + stateRoom
  | least, some most =>
    let start := if least = 0 then stateRoom else least * round
    if least = most then start
    else start + stateRoom + (most - least) * (forkRoom + round)

/-- The room of a pattern, which may be a branch of a choice. -/
def roomIn (direction : Direction) (isBranch : Bool) : Pattern → Nat
  | .either first second =>
    roomIn direction true first + roomIn direction true second +
      if isBranch then 0 else 2 * stateRoom
  | .empty => stateRoom + branch
  | .one set => set.room direction + branch
  | .edge _ _ => stateRoom + branch
  | .group pattern =>
    let marks := match direction with
      | .forward => 2 * stateRoom
      | .backward => 0
    marks + roomIn direction false pattern + branch
  | .both first second => roomIn direction false first + roomIn direction false second + branch
  | .repeated least most pattern =>
    repeatedRoom (roomIn direction false pattern) (!takesSomething pattern) least most + branch
where
  /-- The room of the branch to a pattern. -/
  branch : Nat := if isBranch then branchRoom else 0

/-- The room of a whole pattern.  A state stands for its end, and a loop before it
finds where it starts. -/
def room (direction : Direction) (pattern : Pattern) : Nat :=
  let anyByte := 2 * stateRoom + rangeRoom
  roomIn direction false (.group pattern) + stateRoom + forkRoom + anyByte

end CheckHarness.Pattern
