import CheckHarness.Log
import CheckHarness.Text.Pieces
import CheckHarness.Text.Space

/-!
# Directives

A directive sets the threshold for some parts of the program: for those whose names
start with its scope, or for all.  Of the directives about a part, the one with the
longest scope decides, and of two that are equally long the later one.

A directive is written as a level, as a scope, or as a scope with a level behind an
equals sign.  A scope without a level lets everything through.
-/

namespace CheckHarness.Log

/-- A threshold for some parts of the program. -/
structure Directive where
  /-- The start of the names of the parts, if it is not about all. -/
  scope : Option String
  threshold : Threshold
deriving DecidableEq, Repr

namespace Directive

/-! ## What it is about -/

/-- Whether a directive is about a part. -/
def covers (directive : Directive) (source : Source) : Bool :=
  directive.scope.all fun scope => scope.toList.isPrefixOf source.name.toList

/-- The length of the scope. -/
def size (directive : Directive) : Nat := (directive.scope.getD "").length

/-- The directives with one more.  It takes the place of one with the same scope. -/
def insert (directives : List Directive) (directive : Directive) : List Directive :=
  if directives.any fun other => other.scope = directive.scope then
    directives.map fun other => if other.scope = directive.scope then directive else other
  else directives ++ [directive]

/-- The directive that decides about a part. -/
def deciding? (directives : List Directive) (source : Source) : Option Directive :=
  (directives.filter fun directive => directive.covers source).foldl
    (fun best directive =>
      match best with
      | some other => if directive.size < other.size then some other else some directive
      | none => some directive)
    none

/-! ## Reading -/

/-- The directive a text stands for, or the part of it that is no level or directive. -/
def ofChars (text : List Char) : Except String Directive :=
  match pieces '=' text with
  | [word] =>
    match Threshold.ofWord? (String.ofList word) with
    | some threshold => .ok ⟨none, threshold⟩
    | none => .ok ⟨some (String.ofList word), .lowest⟩
  | [scope, word] =>
    let word := trim word
    if word = [] then .ok ⟨some (String.ofList scope), .lowest⟩
    else
      match Threshold.ofWord? (String.ofList word) with
      | some threshold => .ok ⟨some (String.ofList scope), threshold⟩
      | none => .error (String.ofList word)
  | _ => .error (String.ofList text)

/-- The texts between the commas that are more than white space. -/
def parts (text : List Char) : List (List Char) :=
  ((pieces ',' text).map trim).filter (· ≠ [])

end Directive

end CheckHarness.Log
