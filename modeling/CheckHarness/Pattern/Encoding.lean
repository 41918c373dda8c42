import CheckHarness.Pattern.CharSet

/-!
# Sets in bytes

A compiled pattern reads bytes.  A set of characters becomes sequences of ranges of
bytes: the characters whose encodings have, at each place, any byte of the range
there.  The code points of a range are cut where the length of the encoding changes,
around the surrogates, and then wherever the first bytes do not go together with all
bytes behind them.

A character of ASCII is one byte.  Any other has a lead byte and up to three
continuation bytes of six bits each.
-/

namespace CheckHarness.Pattern

/-- A range of bytes, both ends included. -/
abbrev ByteRange := Nat × Nat

/-- A range of bytes for each place. -/
abbrev ByteSequence := List ByteRange

namespace ByteSequence

/-! ## Cutting ranges -/

/-- The continuation bytes. -/
def continuation : ByteRange := (0x80, 0xbf)

/-- The sequences of a range of numbers, when the first byte starts at an offset and
some continuation bytes follow. -/
def within (offset : Nat) : Nat → Nat → Nat → List ByteSequence
  | 0, first, last => [[(offset + first, offset + last)]]
  | places + 1, first, last =>
    let size := 64 ^ (places + 1)
    let block (n first last : Nat) : List ByteSequence :=
      (within 0x80 places first last).map ((offset + n, offset + n) :: ·)
    let low := first / size
    let high := last / size
    if low = high then block low (first % size) (last % size)
    else
      let startsInside := first % size ≠ 0
      let stopsInside := last % size ≠ size - 1
      let front := if startsInside then block low (first % size) (size - 1) else []
      let back := if stopsInside then block high 0 (last % size) else []
      let low := if startsInside then low + 1 else low
      let stop := if stopsInside then high else high + 1
      let lead : ByteRange := (offset + low, offset + (stop - 1))
      let middle := if low < stop then [lead :: List.replicate (places + 1) continuation] else []
      front ++ middle ++ back

/-- The code points whose encodings have the same length, in order: the first and the
last, where the first byte starts, and how many continuation bytes follow. -/
def lengths : List (Nat × Nat × Nat × Nat) :=
  [(0x0, 0x7f, 0x0, 0), (0x80, 0x7ff, 0xc0, 1), (0x800, 0xd7ff, 0xe0, 2),
    (0xe000, 0xffff, 0xe0, 2), (0x10000, 0x10ffff, 0xf0, 3)]

/-- The sequences of a range of code points. -/
def ofRange (first last : Nat) : List ByteSequence :=
  lengths.flatMap fun (low, high, offset, places) =>
    let first := max first low
    let last := min last high
    if first ≤ last then within offset places first last else []

/-- The sequences of a set. -/
def ofSet (set : CharSet) : List ByteSequence :=
  set.ranges.flatMap fun (first, last) => ofRange first last

/-! ## Common parts -/

/-- The parts that sequences start with, each once. -/
def starts (sequences : List ByteSequence) : List ByteSequence :=
  (sequences.flatMap fun s => (List.range s.length).map fun n => s.take (n + 1)).eraseDups

/-- The first ranges of sequences, each once. -/
def heads (sequences : List ByteSequence) : List ByteRange :=
  (sequences.filterMap List.head?).eraseDups

/-- What follows a first range. -/
def behind (head : ByteRange) (sequences : List ByteSequence) : List ByteSequence :=
  (sequences.filter fun s => s.head? = some head).map List.tail

/-- What may follow some first ranges, down to a depth, the sequences themselves
included. -/
def remainders : Nat → List ByteSequence → List (List ByteSequence)
  | 0, _ => []
  | depth + 1, sequences =>
    match heads sequences with
    | [] => []
    | heads => sequences :: heads.flatMap fun head => remainders depth (behind head sequences)

/-- The remainders of sequences, each once. -/
def states (sequences : List ByteSequence) : List (List ByteSequence) :=
  (remainders 4 sequences).eraseDups

end ByteSequence

end CheckHarness.Pattern
