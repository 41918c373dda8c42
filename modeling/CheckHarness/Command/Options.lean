import CheckHarness.Command.Invocation

/-!
# Options

The options of the command line, where each may stand, and what is given by them.
An option has a long name and may have a short one.  It takes a value, or it is a
flag.  The options of the whole run stand before the command, and those of a
command behind it.
-/

namespace CheckHarness.Command

/-! ## Options and where they stand -/

/-- The options. -/
inductive Opt where
  | logLevel
  | config
  | filter
  | kind
  | note
  | todo
  | help
  | version
deriving DecidableEq, Repr

namespace Opt

/-- The long name. -/
def long : Opt → String
  | .logLevel => "log-level"
  | .config => "config"
  | .filter => "filter"
  | .kind => "kind"
  | .note => "note"
  | .todo => "todo"
  | .help => "help"
  | .version => "version"

/-- The short name, if there is one. -/
def short? : Opt → Option Char
  | .filter => some 'f'
  | .kind => some 'k'
  | .note => some 'n'
  | .help => some 'h'
  | .version => some 'V'
  | .logLevel | .config | .todo => none

/-- Whether the option takes a value. -/
def takesValue : Opt → Bool
  | .logLevel | .config | .filter | .kind | .note => true
  | .todo | .help | .version => false

end Opt

/-- Where a word stands: before the command, or behind one of the commands. -/
inductive Scope where
  | outer
  | selftest
  | compare
deriving DecidableEq, Repr

namespace Scope

/-- The options that may stand in a scope. -/
def options : Scope → List Opt
  | .outer => [.logLevel, .config, .help, .version]
  | .selftest => [.filter, .help]
  | .compare => [.kind, .note, .todo, .help]

/-- The option of a long name. -/
def ofLong? (scope : Scope) (name : String) : Option Opt :=
  scope.options.find? fun opt => opt.long = name

/-- The option of a short name. -/
def ofShort? (scope : Scope) (letter : Char) : Option Opt :=
  scope.options.find? fun opt => opt.short? = some letter

/-- How many values that belong to no option a scope takes. -/
def places : Scope → Nat
  | .outer | .selftest => 0
  | .compare => 2

end Scope

/-! ## What is given -/

/-- What the words of a scope have given so far. -/
structure Given where
  logLevel : Option String := none
  config : Option String := none
  filter : Option String := none
  kind : Option Kind := none
  note : Option String := none
  todo : Bool := false
  /-- The values that belong to no option, in order. -/
  operands : List String := []
deriving DecidableEq, Repr

namespace Given

/-- Whether an option is given. -/
def has (given : Given) : Opt → Bool
  | .logLevel => given.logLevel.isSome
  | .config => given.config.isSome
  | .filter => given.filter.isSome
  | .kind => given.kind.isSome
  | .note => given.note.isSome
  | .todo => given.todo
  | .help | .version => false

/-- Sets an option to a value, if it takes the value. -/
def set? (given : Given) (opt : Opt) (value : String) : Option Given :=
  match opt with
  | .logLevel => some { given with logLevel := some value }
  | .config => if value = "" then none else some { given with config := some value }
  | .filter => some { given with filter := some value }
  | .kind => (Kind.ofName? value).map fun kind => { given with kind := some kind }
  | .note => some { given with note := some value }
  | .todo | .help | .version => none

/-- Gives an option its value.  An option is given once. -/
def store (given : Given) (opt : Opt) (value : String) : Except Refusal Given :=
  if given.has opt then .error .conflict
  else
    match given.set? opt value with
    | some given => .ok given
    | none => .error .invalidValue

/-- Raises a flag. -/
def raise (given : Given) (opt : Opt) : Except Refusal Given :=
  match opt with
  | .help => .error .help
  | .version => .error .version
  | .todo => if given.todo then .error .conflict else .ok { given with todo := true }
  | .logLevel | .config | .filter | .kind | .note => .ok given

end Given

end CheckHarness.Command
