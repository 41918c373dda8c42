import CheckHarness.Pattern.Basic
import CheckHarness.Pattern.Fault

/-!
# What a written pattern means

Flags change the meaning of what stands behind them, up to the end of their group.
So the meaning of a part depends on the *modes* in force before it, and the part
gives the modes in force behind it.

Unicode is on unless it is turned off.  No tables of Unicode are kept, so with it on
the following have no meaning, which is a fault where they stand.

* A class that a letter stands for, such as the digits.
* A property.
* A character or a set of characters in any letter case.  An empty set, or the set of
  everything made from one, is the same in any case and needs no table.

With Unicode off, the classes and the letter case of ASCII are meant, and a set is one
of bytes.  Then a set that holds a byte above ASCII is refused, since it could take a
part of a character.
-/

namespace CheckHarness.Pattern

/-- What has a meaning unless it has a fault. -/
abbrev Meant := Except Fault

/-! ## Characters -/

/-- A character outside ASCII that is written as a byte stands for the byte.  With
Unicode off it is no character. -/
def Literal.char? (modes : Modes) (c : Literal) : Meant Char :=
  if c.isByte && !modes.unicode && 128 ≤ c.char.toNat then
    .error { kind := .invalidUtf8, span := c.span }
  else .ok c.char

/-- A character of a set.  A set of bytes knows ASCII only. -/
def Literal.member (modes : Modes) (c : Literal) : Meant Char := do
  let char ← c.char? modes
  if !modes.unicode && 128 ≤ char.toNat then
    throw { kind := .unicodeNotAllowed, span := c.span }
  return char

/-- A character of a text. -/
def Literal.pattern (modes : Modes) (c : Literal) : Meant Pattern := do
  let char ← c.char? modes
  let set := CharSet.single char
  if modes.anyCase then
    if modes.unicode then throw { kind := .anyCaseUnavailable, span := c.span }
    else return .one set.bothCases
  else return .one set

/-! ## Sets -/

/-- Whether a set has characters of its own, rather than those of sets within it. -/
def SetTree.hasMember : SetTree → Bool
  | .literal _ | .range _ _ _ | .ascii _ _ _ => true
  | .empty _ | .letterClass _ _ _ | .property _ _ | .bracketed _ _ _ | .operation _ _ _ _ => false
  | .union _ sets => anyHasMember sets
where
  /-- Whether one of some sets has characters of its own. -/
  anyHasMember : List SetTree → Bool
    | [] => false
    | set :: sets => set.hasMember || anyHasMember sets

namespace CharSet

/-- The set in some modes.  With Unicode on only a set without characters of its own is
known to be the same in any letter case. -/
def inModes (modes : Modes) (span : Span) (hasMember : Bool) (a : CharSet) : Meant CharSet :=
  if modes.anyCase then
    if modes.unicode then
      if hasMember then .error { kind := .anyCaseUnavailable, span } else .ok a
    else .ok a.bothCases
  else .ok a

/-- The greatest number that a set may hold. -/
def last (modes : Modes) : Nat := if modes.unicode then lastPoint else 255

/-- The set, or what is outside. -/
def negatedIf (modes : Modes) (negated : Bool) (a : CharSet) : CharSet :=
  if negated then a.complement (last modes) else a

/-- A set of bytes, which has to stay within ASCII. -/
def checked (modes : Modes) (span : Span) (a : CharSet) : Meant CharSet :=
  if !modes.unicode && a.ranges.any fun range => 128 ≤ range.2 then
    .error { kind := .invalidUtf8, span }
  else .ok a

/-- A set in some modes, turned around or not. -/
def finished (modes : Modes) (span : Span) (hasMember negated : Bool) (a : CharSet) :
    Meant CharSet := do
  let set ← a.inModes modes span hasMember
  (set.negatedIf modes negated).checked modes span

/-- A class that a letter stands for, turned around or not. -/
def letterClass (modes : Modes) (span : Span) (kind : LetterClass) (negated : Bool) :
    Meant CharSet :=
  if modes.unicode then .error { kind := .letterClassNotFound, span }
  else ((ofLetterClass kind).negatedIf modes negated).checked modes span

end CharSet

/-! ## Properties -/

/-- The name of a property without what names do not differ by: letter case, spaces,
hyphens, underscores, and `is` in front. -/
def plainName (name : String) : String :=
  let lower := name.toList.map Char.toLower
  let isPrefixed := ['i', 's'].isPrefixOf lower
  let chars := if isPrefixed then lower.drop 2 else lower
  String.ofList (chars.filter fun c => c ≠ ' ' && c ≠ '_' && c ≠ '-' && c.toNat < 128)

/-- The short names of categories that are also short names of properties.  They are
looked up as values. -/
def categoryNames : List String := ["cf", "sc", "lc"]

/-- What is wrong with a property.  Only Unicode has properties, and none is known. -/
def propertyFault (modes : Modes) (name : String) : FaultKind :=
  if modes.unicode then
    if plainName name ∈ categoryNames then .propertyValueNotFound else .propertyNotFound
  else .unicodeNotAllowed

/-! ## Sets as written -/

mutual

/-- The characters of a set. -/
def SetTree.meaning (modes : Modes) : SetTree → Meant CharSet
  | .empty _ => .ok .nothing
  | .literal c => return .single (← c.member modes)
  | .range _ first last => do
    let first ← first.member modes
    let last ← last.member modes
    return .between first.toNat last.toNat
  | .ascii span kind negated => (CharSet.ofAscii kind).finished modes span true negated
  | .letterClass span kind negated => CharSet.letterClass modes span kind negated
  | .property span name => .error { kind := propertyFault modes name, span }
  | .bracketed span negated set => do
    (← set.meaning modes).finished modes span set.hasMember negated
  | .union _ sets => SetTree.unionMeaning modes sets
  | .operation _ op left right => do
    let a ← left.meaning modes
    let b ← right.meaning modes
    let b ← b.inModes modes right.span right.hasMember
    let a ← a.inModes modes left.span left.hasMember
    return .operate op a b

/-- The characters of some sets. -/
def SetTree.unionMeaning (modes : Modes) : List SetTree → Meant CharSet
  | [] => .ok .nothing
  | set :: sets => do
    let first ← set.meaning modes
    let others ← SetTree.unionMeaning modes sets
    return first.union others

end

/-! ## Patterns as written -/

/-- The characters that end a line. -/
def lineEnds (modes : Modes) : CharSet :=
  if modes.dotAll then .nothing
  else if modes.crlf then (CharSet.single '\n').union (.single '\r')
  else .single '\n'

/-- The pattern of a dot. -/
def dot (modes : Modes) (span : Span) : Meant Pattern :=
  if modes.unicode then .ok (.one ((lineEnds modes).complement CharSet.lastPoint))
  else .error { kind := .invalidUtf8, span }

/-- The pattern of an atom. -/
def Atom.meaning (modes : Modes) : Atom → Meant Pattern
  | .literal c => c.pattern modes
  | .dot span => Pattern.dot modes span
  | .edge _ kind => .ok (.edge kind modes)
  | .letterClass span kind negated =>
    return .one (← CharSet.letterClass modes span kind negated)
  | .property span name => .error { kind := propertyFault modes name, span }

mutual

/-- The pattern that is meant, and the modes behind it. -/
def Tree.meaning (modes : Modes) : Tree → Meant (Pattern × Modes)
  | .empty _ => .ok (.empty, modes)
  | .flags _ items => .ok (.empty, modes.after items)
  | .atom part => return (← part.meaning modes, modes)
  | .bracketed span negated set => do
    let characters ← set.meaning modes
    return (.one (← characters.finished modes span set.hasMember negated), modes)
  | .repeated _ least most tree => do
    let (pattern, modes) ← tree.meaning modes
    return (.times least most pattern, modes)
  | .group _ isKept items tree => do
    let (pattern, _) ← tree.meaning (modes.after items)
    return (if isKept then .group pattern else pattern, modes)
  | .choice _ trees => do
    let (patterns, modes) ← Tree.meanings modes trees
    match patterns with
    | [] => return (.empty, modes)
    | first :: others => return (.choice first others, modes)
  | .sequence _ trees => do
    let (patterns, modes) ← Tree.meanings modes trees
    return (.sequence patterns, modes)

/-- The patterns that are meant, one behind the other. -/
def Tree.meanings (modes : Modes) : List Tree → Meant (List Pattern × Modes)
  | [] => .ok ([], modes)
  | tree :: trees => do
    let (first, modes) ← tree.meaning modes
    let (others, modes) ← Tree.meanings modes trees
    return (first :: others, modes)

end

end CheckHarness.Pattern
