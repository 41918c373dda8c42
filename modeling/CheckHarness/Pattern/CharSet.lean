import CheckHarness.Pattern.Tree
import CheckHarness.Text.Ranges

/-!
# Sets of characters

A set is kept as ranges of code points.  They are in order, and no two of them touch,
so that a set has one form only.
-/

namespace CheckHarness.Pattern

/-- A set of characters. -/
structure CharSet where
  ranges : Ranges
deriving DecidableEq, Repr

namespace CharSet

/-- Whether a character is in a set. -/
def has (a : CharSet) (c : Char) : Bool := a.ranges.covers c

/-- The greatest code point. -/
def lastPoint : Nat := 0x10ffff

/-! ## Simple sets -/

/-- No character. -/
def nothing : CharSet := ⟨[]⟩

/-- The code points between two. -/
def between (first last : Nat) : CharSet := ⟨[(first, last)]⟩

/-- One character. -/
def single (c : Char) : CharSet := between c.toNat c.toNat

/-! ## Two sets -/

/-- Ranges in order, each joined to those that it touches.  The range before them is
given by its ends. -/
def joinedFrom (first last : Nat) : Ranges → Ranges
  | [] => [(first, last)]
  | (first', last') :: rest =>
    if first' ≤ last + 1 then joinedFrom first (max last last') rest
    else (first, last) :: joinedFrom first' last' rest

/-- Ranges in order, each joined to those that it touches. -/
def joined : Ranges → Ranges
  | [] => []
  | (first, last) :: rest => joinedFrom first last rest

/-- The characters of one set or the other. -/
def union (a b : CharSet) : CharSet :=
  ⟨joined (a.ranges.merge b.ranges fun r s => r.1 ≤ s.1)⟩

/-- The code points between two that lie in none of some ranges in order. -/
def outside (last : Nat) : Nat → Ranges → Ranges
  | next, [] => if next ≤ last then [(next, last)] else []
  | next, (first, stop) :: rest =>
    let behind := outside last (max next (stop + 1)) rest
    if next < first then (next, first - 1) :: behind else behind

/-- The code points outside a set, up to a last one. -/
def complement (last : Nat) (a : CharSet) : CharSet := ⟨outside last 0 a.ranges⟩

/-- The characters of two sets at once. -/
def intersection (a b : CharSet) : CharSet :=
  ((a.complement lastPoint).union (b.complement lastPoint)).complement lastPoint

/-- The characters of a set that are not in another. -/
def difference (a b : CharSet) : CharSet := a.intersection (b.complement lastPoint)

/-- Two sets put together. -/
def operate (op : SetOp) (a b : CharSet) : CharSet :=
  match op with
  | .intersection => a.intersection b
  | .difference => a.difference b
  | .symmetricDifference => (a.difference b).union (b.difference a)

/-! ## Letter case -/

/-- The set with the letters of ASCII in either case. -/
def bothCases (a : CharSet) : CharSet :=
  let upper := a.intersection (between 0x41 0x5a)
  let lower := a.intersection (between 0x61 0x7a)
  let lowered : CharSet := ⟨upper.ranges.map fun (first, last) => (first + 32, last + 32)⟩
  let raised : CharSet := ⟨lower.ranges.map fun (first, last) => (first - 32, last - 32)⟩
  (a.union lowered).union raised

/-! ## Named classes -/

/-- The set of a class of ASCII. -/
def ofAscii (kind : AsciiClass) : CharSet :=
  match kind with
  | .alnum => ⟨[(0x30, 0x39), (0x41, 0x5a), (0x61, 0x7a)]⟩
  | .alpha => ⟨[(0x41, 0x5a), (0x61, 0x7a)]⟩
  | .ascii => ⟨[(0x0, 0x7f)]⟩
  | .blank => ⟨[(0x9, 0x9), (0x20, 0x20)]⟩
  | .cntrl => ⟨[(0x0, 0x1f), (0x7f, 0x7f)]⟩
  | .digit => ⟨[(0x30, 0x39)]⟩
  | .graph => ⟨[(0x21, 0x7e)]⟩
  | .lower => ⟨[(0x61, 0x7a)]⟩
  | .print => ⟨[(0x20, 0x7e)]⟩
  | .punct => ⟨[(0x21, 0x2f), (0x3a, 0x40), (0x5b, 0x60), (0x7b, 0x7e)]⟩
  | .space => ⟨[(0x9, 0xd), (0x20, 0x20)]⟩
  | .upper => ⟨[(0x41, 0x5a)]⟩
  | .word => ⟨[(0x30, 0x39), (0x41, 0x5a), (0x5f, 0x5f), (0x61, 0x7a)]⟩
  | .xdigit => ⟨[(0x30, 0x39), (0x41, 0x46), (0x61, 0x66)]⟩

/-- The set of ASCII that a letter stands for. -/
def ofLetterClass (kind : LetterClass) : CharSet :=
  match kind with
  | .digit => ofAscii .digit
  | .space => ofAscii .space
  | .word => ofAscii .word

end CharSet

end CheckHarness.Pattern
