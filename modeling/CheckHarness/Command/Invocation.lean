import CheckHarness.Value

/-!
# Invocations

What a command line asks for.  There are two commands: to run the self test, and
to compare two values.  A command line that asks for neither is *refused*, which
is also how requests for help and for the version come out.
-/

namespace CheckHarness

/-- The commands. -/
inductive Command where
  /-- Runs the testlets whose names contain a filter. -/
  | selftest (filter : Option String)
  /-- Compares two values given as texts of a kind. -/
  | compare (kind : Kind) (result expected : String) (todo : Bool) (note : Option String)
deriving DecidableEq, Repr

/-- A command with what is set for the whole run. -/
structure Invocation where
  /-- The word for the threshold of the log. -/
  logLevel : Option String
  /-- The path of a settings file. -/
  config : Option String
  command : Command
deriving DecidableEq, Repr

/-- Why a command line asks for no command. -/
inductive Refusal where
  /-- Help is asked for. -/
  | help
  /-- The version is asked for. -/
  | version
  /-- Nothing is asked for, so help is in place. -/
  | nothingGiven
  /-- An option has no value, or one it does not take. -/
  | invalidValue
  /-- There is no such option, or no place for a value. -/
  | unknownArgument
  /-- There is no such command. -/
  | unknownCommand
  /-- An option is given twice. -/
  | conflict
  /-- An option that takes no value has one. -/
  | surplusValue
  /-- A required value is missing. -/
  | missingArgument
  /-- The command is missing. -/
  | missingCommand
deriving DecidableEq, Repr

end CheckHarness
