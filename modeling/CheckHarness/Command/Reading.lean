import CheckHarness.Command.Options
import CheckHarness.Command.Word

/-!
# Reading a command line

Words are read from left to right, and the first error wins.

An option whose value is a word of its own *waits*.  The next plain word becomes
its value.  What it waits for is settled only when another option or an operand
starts, or at the end.  Settling is where a missing value, a repeated option and
a value it does not take come out.  So an unknown word is reported before them.

While an operand of a comparison is still to come, a word with a hyphen in front
that is no known option counts as a plain word.  A row of short options counts as
known when every letter is.  Elsewhere an unknown option is an error.  Behind a
terminator every word is plain and no value of an option.

The command is the first plain word that no option takes.  The words of the
command are read to the end before the options in front of it are settled.
-/

namespace CheckHarness.Command

/-! ## The words of one scope -/

/-- How far the words of a scope are read. -/
structure Reading where
  given : Given := {}
  /-- The option that waits, and the value it has met. -/
  waiting : Option (Opt × Option String) := none
  /-- Whether the options have ended. -/
  ended : Bool := false
deriving DecidableEq, Repr

namespace Reading

/-- Whether the next plain word is the value of an option. -/
def wantsValue (r : Reading) : Bool :=
  match r.waiting with
  | some (_, none) => !r.ended
  | _ => false

/-- Settles the option that waits. -/
def settle (r : Reading) : Except Refusal Reading :=
  match r.waiting with
  | none => .ok r
  | some (_, none) => .error .invalidValue
  | some (opt, some value) => do
    let given ← r.given.store opt value
    return { r with given, waiting := none }

/-- An option whose value is the next word. -/
def await (r : Reading) (opt : Opt) : Except Refusal Reading := do
  let r ← r.settle
  return { r with waiting := some (opt, none) }

/-- An option with its value. -/
def store (r : Reading) (opt : Opt) (value : String) : Except Refusal Reading := do
  let r ← r.settle
  let given ← r.given.store opt value
  return { r with given }

/-- A flag. -/
def raise (r : Reading) (opt : Opt) : Except Refusal Reading := do
  let r ← r.settle
  let given ← r.given.raise opt
  return { r with given }

/-- An operand. -/
def operand (r : Reading) (word : String) : Except Refusal Reading := do
  let r ← r.settle
  return { r with given := { r.given with operands := r.given.operands ++ [word] } }

/-- Whether a scope takes another operand. -/
def hasPlace (scope : Scope) (r : Reading) : Bool := r.given.operands.length < scope.places

/-- A plain word: a value, an operand, or a word without a place. -/
def plain (scope : Scope) (r : Reading) (word : String) : Except Refusal Reading :=
  match r.wantsValue, r.waiting with
  | true, some (opt, _) => .ok { r with waiting := some (opt, some word) }
  | _, _ => if r.hasPlace scope then r.operand word else .error .unknownArgument

/-- A long option. -/
def long (scope : Scope) (r : Reading) (word name : String) (value : Option String) :
    Except Refusal Reading :=
  match scope.ofLong? name, value with
  | some opt, some value => if opt.takesValue then r.store opt value else .error .surplusValue
  | some opt, none => if opt.takesValue then r.await opt else r.raise opt
  | none, _ => if r.hasPlace scope then r.plain scope word else .error .unknownArgument

/-- The value that the letters behind a short option make. -/
def attached : List Char → String
  | '=' :: value => String.ofList value
  | value => String.ofList value

/-- A row of short options. -/
def shorts (scope : Scope) (r : Reading) : List Char → Except Refusal Reading
  | [] => .ok r
  | letter :: rest =>
    match scope.ofShort? letter with
    | none => .error .unknownArgument
    | some opt =>
      if opt.takesValue then
        if rest = [] then r.await opt else r.store opt (attached rest)
      else do
        let r ← r.raise opt
        shorts scope r rest

/-- A word that starts with one hyphen. -/
def short (scope : Scope) (r : Reading) (word : String) (letters : List Char) :
    Except Refusal Reading :=
  if r.hasPlace scope && letters.any (fun letter => (scope.ofShort? letter).isNone) then
    r.plain scope word
  else r.shorts scope letters

/-- One word. -/
def step (scope : Scope) (r : Reading) (word : String) : Except Refusal Reading :=
  if r.ended then r.plain scope word
  else
    match Word.ofString word with
    | .terminator => .ok { r with ended := true }
    | .long name value => r.long scope word name value
    | .short letters => r.short scope word letters
    | .plain => r.plain scope word

/-- All words of a scope, and what they give. -/
def steps (scope : Scope) (words : List String) : Except Refusal Given := do
  let r ← words.foldlM (step scope) {}
  let r ← r.settle
  return r.given

end Reading

/-! ## Commands -/

/-- The self test that the words behind its name ask for. -/
def selftestOfWords (words : List String) : Except Refusal Command := do
  let given ← Reading.steps .selftest words
  return .selftest given.filter

/-- The comparison that the words behind its name ask for. -/
def compareOfWords (words : List String) : Except Refusal Command := do
  let given ← Reading.steps .compare words
  match given.kind, given.operands with
  | some kind, [result, expected] => return .compare kind result expected given.todo given.note
  | _, _ => throw .missingArgument

/-- The name of the request for help. -/
def helpName : String := "help"

/-- The name of the self test. -/
def selftestName : String := "selftest"

/-- The name of the comparison. -/
def compareName : String := "compare"

/-- Whether a word names a command or asks for help. -/
def isName (word : String) : Bool := word ∈ [helpName, selftestName, compareName]

/-- A request for help, on everything or on one command. -/
def helpOfWords : List String → Refusal
  | [] => .help
  | [word] => if isName word then .help else .unknownCommand
  | _ => .unknownCommand

/-- The command that a name and the words behind it ask for. -/
def ofWords (name : String) (words : List String) : Except Refusal Command :=
  if name = helpName then .error (helpOfWords words)
  else if name = selftestName then selftestOfWords words
  else compareOfWords words

end Command

/-! ## Command lines -/

namespace Invocation

open Command

/-- The words before the command, the name of the command and the words behind it,
from how far the words are read. -/
def ofWordsFrom (r : Reading) : List String → Except Refusal Invocation
  | [] => do
    let r ← r.settle
    if r.given = {} then throw .nothingGiven else throw .missingCommand
  | word :: words =>
    if isName word && !r.wantsValue && !r.ended then do
      let command ← Command.ofWords word words
      let r ← r.settle
      return { logLevel := r.given.logLevel, config := r.given.config, command }
    else
      match Word.ofString word, r.wantsValue, r.ended with
      | .plain, false, false => throw .unknownCommand
      | _, _, true => throw (if isName word then .unknownArgument else .unknownCommand)
      | _, _, false => do
        let r ← r.step .outer word
        ofWordsFrom r words

/-- What a command line asks for.  The name of the comparison alone asks for nothing. -/
def ofWords (words : List String) : Except Refusal Invocation :=
  if words = [compareName] then .error .nothingGiven else ofWordsFrom {} words

end Invocation

end CheckHarness
