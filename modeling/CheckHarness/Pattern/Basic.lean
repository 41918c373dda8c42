import CheckHarness.Pattern.Edge

/-!
# Patterns

A pattern is a regular expression over characters, with edges.

Places in a text are followed all at once.  A row of marks has one mark for each
place, and `Pattern.reach` gives the places that can be reached from the marked
ones by the pattern.  A repetition needs no more rounds than there are places, since
a round that takes no character reaches nothing new.

`reach_length` says that a row of marks keeps its length.
-/

namespace CheckHarness

/-- A regular expression with edges. -/
inductive Pattern where
  /-- Takes nothing. -/
  | empty
  /-- Takes one character of a set. -/
  | one (set : Pattern.CharSet)
  /-- Takes nothing, at some places only. -/
  | edge (kind : Pattern.Edge) (modes : Pattern.Modes)
  /-- Takes what the pattern takes.  Where that starts and stops is kept. -/
  | group (pattern : Pattern)
  | both (first second : Pattern)
  | either (first second : Pattern)
  /-- Takes the same pattern again and again.  Without a greatest number there is no
  bound. -/
  | repeated (least : Nat) (most : Option Nat) (pattern : Pattern)
deriving DecidableEq, Repr

namespace Pattern

/-! ## Composed patterns -/

/-- Whether a pattern takes no character whatever the text. -/
def takesNothing : Pattern → Bool
  | .empty => true
  | .one _ => false
  | .edge _ _ => true
  | .group pattern => takesNothing pattern
  | .both first second => takesNothing first && takesNothing second
  | .either first second => takesNothing first && takesNothing second
  | .repeated _ most pattern => most = some 0 || takesNothing pattern

/-- One pattern after the other. -/
def sequence (patterns : List Pattern) : Pattern :=
  match (patterns.filter (· ≠ .empty)).reverse with
  | [] => .empty
  | last :: others => others.foldl (fun rest pattern => .both pattern rest) last

/-- The set of a pattern that is one character of a set. -/
def set? : Pattern → Option CharSet
  | .one set => some set
  | _ => none

/-- One of some patterns.  A choice between sets is a set. -/
def choice (first : Pattern) (others : List Pattern) : Pattern :=
  match first.set?, others.mapM set? with
  | some set, some sets => .one (sets.foldl CharSet.union set)
  | _, _ => others.foldl either first

/-- A pattern again and again.  What takes no character needs no second round. -/
def times (least : Nat) (most : Option Nat) (pattern : Pattern) : Pattern :=
  let isIdle := pattern.takesNothing
  let least := if isIdle then min least 1 else least
  let most := if isIdle then some ((most.map (min · 1)).getD 1) else most
  if most = some 0 then .empty
  else if least = 1 ∧ most = some 1 then pattern
  else .repeated least most pattern

/-! ## Reaching places -/

/-- A mark for each place of a text. -/
abbrev Marks := List Bool

/-- The places with a mark in one row or the other. -/
def Marks.union (a b : Marks) : Marks := List.zipWith (· || ·) a b

/-- Takes a step a number of times. -/
def again (step : Marks → Marks) : Nat → Marks → Marks
  | 0, marks => marks
  | times + 1, marks => again step times (step marks)

/-- Takes a step any number of times up to a bound.  It stops once nothing new is
reached. -/
def spread (step : Marks → Marks) : Nat → Marks → Marks
  | 0, marks => marks
  | times + 1, marks =>
    let more := marks.union (step marks)
    if more = marks then marks else spread step times more

/-- The places behind the marked ones that take one character of a set. -/
def step (gaps : List Gap) (set : CharSet) (marks : Marks) : Marks :=
  (false :: List.zipWith (fun mark (gap : Gap) => mark && gap.behind.any set.has) marks gaps)
    |>.dropLast

/-- The places that a pattern reaches from the marked ones. -/
def reach (gaps : List Gap) : Pattern → Marks → Marks
  | .empty, marks => marks
  | .one set, marks => step gaps set marks
  | .edge kind modes, marks =>
    List.zipWith (fun mark gap => mark && kind.holds modes gap) marks gaps
  | .group pattern, marks => reach gaps pattern marks
  | .both first second, marks => reach gaps second (reach gaps first marks)
  | .either first second, marks => (reach gaps first marks).union (reach gaps second marks)
  | .repeated least most pattern, marks =>
    let round := reach gaps pattern
    let places := gaps.length
    let further := (most.map (· - least)).getD places
    spread round (min further places) (again round (min least places) marks)

/-- Whether a pattern takes some part of a text, the empty part included. -/
def occursIn (pattern : Pattern) (text : List Char) : Bool :=
  let gaps := gaps text
  (reach gaps pattern (gaps.map fun _ => true)).any id

/-! ## Lengths -/

theorem length_union {a b : Marks} {n : Nat} (ha : a.length = n) (hb : b.length = n) :
    (a.union b).length = n := by
  simp [Marks.union, ha, hb]

theorem length_again {step : Marks → Marks} {n : Nat}
    (h : ∀ marks, marks.length = n → (step marks).length = n) (times : Nat) (marks : Marks)
    (hm : marks.length = n) : (again step times marks).length = n := by
  induction times generalizing marks with
  | zero => exact hm
  | succ times ih => exact ih (step marks) (h marks hm)

theorem length_spread {step : Marks → Marks} {n : Nat}
    (h : ∀ marks, marks.length = n → (step marks).length = n) (times : Nat) (marks : Marks)
    (hm : marks.length = n) : (spread step times marks).length = n := by
  induction times generalizing marks with
  | zero => exact hm
  | succ times ih =>
    simp only [spread]
    split
    · exact hm
    · exact ih _ (length_union hm (h marks hm))

/-- A row of marks keeps its length. -/
theorem reach_length (gaps : List Gap) (pattern : Pattern) (marks : Marks)
    (h : marks.length = gaps.length) : (reach gaps pattern marks).length = gaps.length := by
  induction pattern generalizing marks with
  | empty => exact h
  | one set => simp [reach, step, h]
  | edge kind modes => simp [reach, h]
  | group pattern ih => exact ih marks h
  | both first second ih₁ ih₂ => exact ih₂ _ (ih₁ marks h)
  | either first second ih₁ ih₂ => exact length_union (ih₁ marks h) (ih₂ marks h)
  | repeated least most pattern ih =>
    exact length_spread ih _ _ (length_again ih _ marks h)

end Pattern

end CheckHarness
