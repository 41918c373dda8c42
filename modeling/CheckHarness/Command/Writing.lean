import CheckHarness.Command.Invocation

/-!
# Writing a command line

The command lines that say what an invocation asks for, each option with its value in
the same word.  The options of the whole run come first, then the name of the command
and its own options.  The options of one place may come in any order.

The operands of a comparison stand anywhere between its options when they do not start
with a hyphen.  Behind two hyphens they may be any texts.

Nothing is quoted or escaped.  The texts stand in the words as they are.
-/

namespace CheckHarness

namespace Command

/-! ## Settings -/

/-- An option with its value, or a flag. -/
inductive Setting where
  | logLevel (level : String)
  | config (path : String)
  | filter (part : String)
  | kind (k : Kind)
  | note (text : String)
  | todo
deriving DecidableEq, Repr

/-- The word that says a setting. -/
def Setting.word : Setting → String
  | .logLevel level => "--log-level=" ++ level
  | .config path => "--config=" ++ path
  | .filter part => "--filter=" ++ part
  | .kind k => "--kind=" ++ k.name
  | .note text => "--note=" ++ text
  | .todo => "--todo"

/-- `Mixed settings operands words`: the words say the settings, and the operands stand
between them.  Both are in order. -/
inductive Mixed : List Setting → List String → List String → Prop where
  | nil : Mixed [] [] []
  | setting {s : Setting} {settings : List Setting} {operands words : List String}
      (mixed : Mixed settings operands words) : Mixed (s :: settings) operands (s.word :: words)
  | operand {word : String} {settings : List Setting} {operands words : List String}
      (mixed : Mixed settings operands words) : Mixed settings (word :: operands) (word :: words)

/-! ## Commands -/

/-- The name of a command. -/
def name : Command → String
  | .selftest _ => "selftest"
  | .compare .. => "compare"

/-- The settings of a command. -/
def settings : Command → List Setting
  | .selftest filter => (filter.map Setting.filter).toList
  | .compare kind _ _ todo note =>
    .kind kind :: (note.map Setting.note).toList ++ if todo then [.todo] else []

/-- The operands of a command. -/
def operands : Command → List String
  | .selftest _ => []
  | .compare _ result expected _ _ => [result, expected]

/-- Words that say a command. -/
inductive Written (command : Command) : List String → Prop where
  /-- The operands stand between the settings. -/
  | mixed {order : List Setting} {words : List String} (all : order.Perm command.settings)
      (unhyphened : ∀ word ∈ command.operands, word.toList.head? ≠ some '-')
      (mixed : Mixed order command.operands words) : Written command (command.name :: words)
  /-- The operands stand behind two hyphens. -/
  | ended {order : List Setting} (all : order.Perm command.settings) :
      Written command (command.name :: (order.map Setting.word ++ "--" :: command.operands))

end Command

/-! ## Invocations -/

namespace Invocation

open Command

/-- The settings of the whole run. -/
def settings (i : Invocation) : List Setting :=
  (i.logLevel.map Setting.logLevel).toList ++ (i.config.map Setting.config).toList

/-- Words that say an invocation. -/
inductive Written (i : Invocation) : List String → Prop where
  | intro {order : List Setting} {words : List String} (all : order.Perm i.settings)
      (command : i.command.Written words) : Written i (order.map Setting.word ++ words)

/-- Every invocation can be written. -/
theorem exists_written (i : Invocation) : ∃ words, i.Written words :=
  ⟨_, .intro (.refl _) (.ended (.refl _))⟩

end Invocation

end CheckHarness
