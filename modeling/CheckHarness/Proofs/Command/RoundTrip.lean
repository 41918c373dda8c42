import CheckHarness.Command.Writing
import CheckHarness.Proofs.Command.Operands
import Mathlib.Data.List.Nodup

/-!
# Command lines read back

Words that say an invocation are read as that invocation.  The texts in them are as they
please: they may start with a hyphen, hold an equals sign or look like options and commands.
Only the path of a settings file must not be empty.

Three facts carry this.

* The word of a setting is split at its first equals sign.  No name of an option has one,
  so the value is the text as it stands (`Setting.ofString_word`).
* Such a word gives its setting at once, and nothing waits for a value behind it
  (`Settable.step_word`).  So no word is ever taken for the value of another.
* Settings of different options change different things, so their order does not matter
  (`Settable.foldl_give`).

An operand between the settings is free, as no hyphen starts it (`Mixed.foldlM_step`).
Behind two hyphens every word is an operand (`foldlM_operands`).

`ofWords_written` is what follows for a whole command line.
-/

namespace CheckHarness

namespace Command

/-! ## Words of settings -/

/-- A name without an equals sign is split off whole. -/
theorem splitValue_append {name : List Char} (value : List Char) (plain : '=' ∉ name) :
    splitValue (name ++ '=' :: value) = (name, some value) := by
  induction name with
  | nil => rfl
  | cons c name ih =>
      obtain ⟨ne, plain⟩ := List.ne_and_not_mem_of_not_mem_cons plain
      rw [List.cons_append, splitValue, ih plain]
      exact ne.symm

/-- A long option with its value in the same word. -/
theorem ofString_valued {name : String} (value : String) (plain : '=' ∉ name.toList) :
    Word.ofString ("--" ++ name ++ "=" ++ value) = .long name (some value) := by
  have chars : ("--" ++ name ++ "=" ++ value).toList =
      '-' :: '-' :: (name.toList ++ '=' :: value.toList) := by
    simp [String.toList_append]
  rw [Word.ofString, chars, Word.ofChars, splitValue_append _ plain]
  · simp only [Option.map_some, String.ofList_toList]
  · simp

theorem Opt.equals_notMem_long (opt : Opt) : '=' ∉ opt.long.toList := by
  cases opt <;> decide

namespace Setting

/-- The option. -/
def opt : Setting → Opt
  | .logLevel _ => .logLevel
  | .config _ => .config
  | .filter _ => .filter
  | .kind _ => .kind
  | .note _ => .note
  | .todo => .todo

/-- The value, if the option takes one. -/
def value? : Setting → Option String
  | .logLevel level => some level
  | .config path => some path
  | .filter part => some part
  | .kind k => some k.name
  | .note text => some text
  | .todo => none

theorem word_eq {s : Setting} {value : String} (valued : s.value? = some value) :
    s.word = "--" ++ s.opt.long ++ "=" ++ value := by
  cases s <;> cases valued <;> exact congrArg (· ++ _) rfl

theorem ofString_word (s : Setting) : Word.ofString s.word = .long s.opt.long s.value? := by
  cases valued : s.value? with
  | some value => rw [word_eq valued, ofString_valued value s.opt.equals_notMem_long]
  | none =>
      cases s with
      | todo => rfl
      | _ => cases valued

theorem takesValue_opt (s : Setting) : s.opt.takesValue = s.value?.isSome := by
  cases s <;> rfl

/-- The word of a setting names no command, since the names are plain words. -/
theorem isName_word (s : Setting) : isName s.word = false := by
  rw [isName, decide_eq_false_iff_not]
  intro mem
  have plain : Word.ofString s.word = .plain := by
    simp only [List.mem_cons, List.not_mem_nil, or_false] at mem
    rcases mem with same | same | same <;>
      · rw [same]
        rfl
  rw [ofString_word] at plain
  cases plain

end Setting

/-! ## What settings give -/

/-- What is given with one more setting. -/
def Given.give (given : Given) : Setting → Given
  | .logLevel level => { given with logLevel := some level }
  | .config path => { given with config := some path }
  | .filter part => { given with filter := some part }
  | .kind k => { given with kind := some k }
  | .note text => { given with note := some text }
  | .todo => { given with todo := true }

namespace Given

variable {given : Given} {s t : Setting}

theorem has_give (given : Given) (s : Setting) (opt : Opt) :
    (given.give s).has opt = (decide (opt = s.opt) || given.has opt) := by
  cases s <;> cases opt <;> rfl

/-- Settings of different options change different things. -/
theorem give_comm (ne : s.opt ≠ t.opt) : (given.give s).give t = (given.give t).give s := by
  cases s <;> cases t <;> first | rfl | exact absurd rfl ne

theorem operands_give (given : Given) (s : Setting) : (given.give s).operands = given.operands := by
  cases s <;> rfl

theorem give_operands (given : Given) (s : Setting) (operands : List String) :
    { given with operands }.give s = { given.give s with operands } := by
  cases s <;> rfl

theorem foldl_give_operands (given : Given) (settings : List Setting) (operands : List String) :
    settings.foldl give { given with operands } =
      { settings.foldl give given with operands } := by
  induction settings generalizing given with
  | nil => rfl
  | cons s settings ih => rw [List.foldl_cons, give_operands, ih, List.foldl_cons]

/-- An option takes every value but an empty path. -/
theorem set?_eq_give {value : String} (path : s ≠ .config "") (valued : s.value? = some value) :
    given.set? s.opt value = some (given.give s) := by
  cases s with
  | config file =>
      cases valued
      have nonempty : value ≠ "" := by
        rintro rfl
        exact path rfl
      rw [Setting.opt, set?, if_neg nonempty, give]
  | kind k =>
      cases valued
      rw [Setting.opt, set?, Kind.ofName?_name, Option.map_some, give]
  | todo => cases valued
  | _ =>
      cases valued
      rfl

theorem store_eq_give {value : String} (fresh : given.has s.opt = false) (path : s ≠ .config "")
    (valued : s.value? = some value) : given.store s.opt value = .ok (given.give s) := by
  rw [store, fresh, set?_eq_give path valued]
  rfl

theorem raise_eq_give (fresh : given.has s.opt = false) (flag : s.value? = none) :
    given.raise s.opt = .ok (given.give s) := by
  cases s with
  | todo =>
      have lowered : given.todo = false := fresh
      rw [Setting.opt, raise, lowered]
      rfl
  | _ => cases flag

end Given

/-- Settings that may stand in a scope, each of them once, after what is given. -/
structure Settable (scope : Scope) (given : Given) (settings : List Setting) : Prop where
  known : ∀ s ∈ settings, s.opt ∈ scope.options
  path : ∀ s ∈ settings, s ≠ .config ""
  fresh : ∀ s ∈ settings, given.has s.opt = false
  once : (settings.map Setting.opt).Nodup

namespace Settable

variable {scope : Scope} {given : Given} {s : Setting} {settings order : List Setting}

theorem tail (settable : Settable scope given (s :: settings)) :
    Settable scope (given.give s) settings where
  known t mem := settable.known t (List.mem_cons_of_mem _ mem)
  path t mem := settable.path t (List.mem_cons_of_mem _ mem)
  fresh t mem := by
    have once := (List.nodup_cons.mp settable.once).1
    have ne : t.opt ≠ s.opt := fun same => once (same ▸ List.mem_map_of_mem mem)
    rw [Given.has_give, decide_eq_false ne, Bool.false_or]
    exact settable.fresh t (List.mem_cons_of_mem _ mem)
  once := (List.nodup_cons.mp settable.once).2

theorem perm (settable : Settable scope given settings) (perm : order.Perm settings) :
    Settable scope given order where
  known s mem := settable.known s (perm.mem_iff.mp mem)
  path s mem := settable.path s (perm.mem_iff.mp mem)
  fresh s mem := settable.fresh s (perm.mem_iff.mp mem)
  once := (perm.map Setting.opt).nodup_iff.mpr settable.once

/-- The order of the settings does not matter. -/
theorem foldl_give (settable : Settable scope given settings) (perm : order.Perm settings) :
    order.foldl Given.give given = settings.foldl Given.give given := by
  refine perm.foldl_eq' ?_ given
  intro s mem t mem' given
  by_cases same : s = t
  · rw [same]
  · have once := (settable.perm perm).once
    exact Given.give_comm fun eq => same (List.inj_on_of_nodup_map once mem mem' eq)

end Settable

/-! ## Words read one by one -/

theorem ofLong?_long {scope : Scope} {opt : Opt} (known : opt ∈ scope.options) :
    scope.ofLong? opt.long = some opt := by
  cases scope <;> cases opt <;> first | decide | exact absurd known (by decide)

/-- The word of a setting gives the setting, and nothing waits for a value. -/
theorem Settable.step_word {scope : Scope} {given : Given} {s : Setting} {settings : List Setting}
    (settable : Settable scope given (s :: settings)) :
    Reading.step scope { given } s.word = .ok { given := given.give s } := by
  have known := ofLong?_long (settable.known s List.mem_cons_self)
  have fresh := settable.fresh s List.mem_cons_self
  have path := settable.path s List.mem_cons_self
  rw [Reading.step, if_neg Bool.false_ne_true, s.ofString_word]
  cases valued : s.value? with
  | some value =>
      have takes : s.opt.takesValue = true := by rw [s.takesValue_opt, valued]; rfl
      simp only [Reading.long, known, takes, if_true, Reading.store, Reading.settle, bind,
        Except.bind, Given.store_eq_give fresh path valued]
      rfl
  | none =>
      have flag : s.opt.takesValue = false := by rw [s.takesValue_opt, valued]; rfl
      simp only [Reading.long, known, flag, Bool.false_eq_true, if_false, Reading.raise,
        Reading.settle, bind, Except.bind, Given.raise_eq_give fresh valued]
      rfl

/-- A place for a word and for those behind it. -/
theorem room_cons {placed operands : List String} {word : String} {places : Nat}
    (room : placed.length + (word :: operands).length ≤ places) :
    placed.length < places ∧ (placed ++ [word]).length + operands.length ≤ places := by
  rw [List.length_cons] at room
  rw [List.length_append, List.length_singleton]
  omega

/-- Settings with operands between them, in the order in which they stand.  The operands are
free, and there is a place for each. -/
theorem Mixed.foldlM_step {scope : Scope} {settings : List Setting} {operands words : List String}
    (mixed : Mixed settings operands words) {given : Given}
    (settable : Settable scope given settings) (free : ∀ word ∈ operands, Free scope word)
    (room : given.operands.length + operands.length ≤ scope.places) :
    words.foldlM (Reading.step scope) { given } =
      .ok { given := { settings.foldl Given.give given with
              operands := given.operands ++ operands } } := by
  induction mixed generalizing given with
  | nil =>
      rw [List.foldlM_nil, List.append_nil]
      rfl
  | @setting s settings operands words mixed ih =>
      have room' : (given.give s).operands.length + operands.length ≤ scope.places := by
        rw [given.operands_give]
        exact room
      rw [List.foldlM_cons, settable.step_word]
      refine (ih settable.tail free room').trans ?_
      rw [given.operands_give, List.foldl_cons]
  | @operand word settings operands words mixed ih =>
      obtain ⟨place, room'⟩ := room_cons room
      have step : Reading.step scope { given } word =
          .ok { given := { given with operands := given.operands ++ [word] } } :=
        (free word List.mem_cons_self).step_eq_operand (decide_eq_true place) rfl
      have settable' :
          Settable scope { given with operands := given.operands ++ [word] } settings :=
        ⟨settable.known, settable.path, settable.fresh, settable.once⟩
      rw [List.foldlM_cons, step]
      refine (ih settable' (fun w mem => free w (List.mem_cons_of_mem _ mem)) room').trans ?_
      rw [Given.foldl_give_operands, List.append_assoc, List.singleton_append]

/-- Words of settings alone. -/
theorem Mixed.of_settings (settings : List Setting) :
    Mixed settings [] (settings.map Setting.word) := by
  induction settings with
  | nil => exact .nil
  | cons s settings ih => exact .setting ih

/-- Behind two hyphens every word is an operand, while there is a place for it. -/
theorem foldlM_operands {scope : Scope} {given : Given} {operands : List String}
    (room : given.operands.length + operands.length ≤ scope.places) :
    operands.foldlM (Reading.step scope) { given, ended := true } =
      .ok { given := { given with operands := given.operands ++ operands }, ended := true } := by
  induction operands generalizing given with
  | nil =>
      rw [List.foldlM_nil, List.append_nil]
      rfl
  | cons word operands ih =>
      obtain ⟨place, room'⟩ := room_cons room
      have hasPlace : Reading.hasPlace scope { given, ended := true } = true :=
        decide_eq_true place
      have step : Reading.step scope { given, ended := true } word =
          .ok { given := { given with operands := given.operands ++ [word] }, ended := true } := by
        rw [Reading.step, if_pos rfl, Reading.plain]
        simp only [hasPlace, if_true]
        rfl
      rw [List.foldlM_cons, step]
      refine (ih room').trans ?_
      rw [List.append_assoc, List.singleton_append]

/-! ## The words behind the name of a command -/

/-- Where the settings of a command stand. -/
def scope : Command → Scope
  | .selftest _ => .selftest
  | .compare .. => .compare

/-- What the words of a command give. -/
def toGiven (command : Command) : Given :=
  { command.settings.foldl Given.give {} with operands := command.operands }

theorem places_scope (command : Command) : command.operands.length = command.scope.places := by
  cases command <;> rfl

theorem settable_settings (command : Command) : Settable command.scope {} command.settings := by
  cases command with
  | selftest filter =>
      cases filter <;> constructor <;> simp [settings, scope, Scope.options, Setting.opt, Given.has]
  | compare kind result expected todo note =>
      cases todo <;> cases note <;> constructor <;>
        simp [settings, scope, Scope.options, Setting.opt, Given.has]

/-- Without a hyphen in front a word is free. -/
theorem free_of_head_ne {scope : Scope} {word : String} (head : word.toList.head? ≠ some '-') :
    Free scope word :=
  .plain (ofChars_of_head_ne head)

/-- The words behind the name give what the command has. -/
theorem Written.steps_eq {command : Command} {words : List String}
    (written : Written command words) :
    ∃ rest, words = command.name :: rest ∧
      Reading.steps command.scope rest = .ok command.toGiven := by
  have room : ([] : List String).length + command.operands.length ≤ command.scope.places :=
    Nat.le_of_eq ((Nat.zero_add _).trans command.places_scope)
  cases written with
  | @mixed order rest all unhyphened mixed =>
      refine ⟨rest, rfl, ?_⟩
      have read := mixed.foldlM_step (command.settable_settings.perm all)
        (fun word mem => free_of_head_ne (unhyphened word mem)) room
      rw [Reading.steps, read, command.settable_settings.foldl_give all]
      rfl
  | @ended order all =>
      refine ⟨_, rfl, ?_⟩
      have read := (Mixed.of_settings order).foldlM_step (command.settable_settings.perm all)
        (fun _ mem => absurd mem List.not_mem_nil) (Nat.zero_le _)
      have ended (given : Given) :
          Reading.step command.scope { given } "--" = .ok { given, ended := true } :=
        rfl
      rw [Reading.steps, List.foldlM_append, read, command.settable_settings.foldl_give all]
      simp only [bind, Except.bind, List.foldlM_cons, ended]
      rw [foldlM_operands room]
      rfl

/-- The words that say a command are read as that command. -/
theorem Written.ofWords_eq {command : Command} {words : List String}
    (written : Written command words) :
    ∃ rest, words = command.name :: rest ∧ ofWords command.name rest = .ok command := by
  obtain ⟨rest, named, read⟩ := written.steps_eq
  refine ⟨rest, named, ?_⟩
  cases command with
  | selftest filter =>
      change selftestOfWords rest = _
      change Reading.steps .selftest rest = _ at read
      rw [selftestOfWords, read]
      cases filter <;> rfl
  | compare kind result expected todo note =>
      change compareOfWords rest = _
      change Reading.steps .compare rest = _ at read
      rw [compareOfWords, read]
      cases todo <;> cases note <;> rfl

end Command

/-! ## Whole command lines -/

namespace Invocation

open Command

theorem settable_settings {i : Invocation} (path : i.config ≠ some "") :
    Settable .outer {} i.settings := by
  obtain ⟨logLevel, config, command⟩ := i
  cases logLevel <;> cases config <;> constructor <;>
    simp_all [settings, Scope.options, Setting.opt, Given.has]

/-- The settings in front of a command are kept until the command is read. -/
theorem ofWordsFrom_settings {order : List Setting} {given : Given}
    (settable : Settable .outer given order) {name : String} (named : isName name = true)
    {rest : List String} {command : Command} (read : Command.ofWords name rest = .ok command) :
    ofWordsFrom { given } (order.map Setting.word ++ name :: rest) =
      .ok { logLevel := (order.foldl Given.give given).logLevel
            config := (order.foldl Given.give given).config, command } := by
  induction order generalizing given with
  | nil =>
      have starts : (isName name && !Reading.wantsValue { given } && !({ given } : Reading).ended) =
          true := by
        rw [named]
        rfl
      rw [List.map_nil, List.nil_append, ofWordsFrom, if_pos starts, read]
      rfl
  | cons s order ih =>
      have goes_on : (isName s.word && !Reading.wantsValue { given } &&
          !({ given } : Reading).ended) = false := by
        rw [s.isName_word]
        rfl
      rw [List.map_cons, List.cons_append, ofWordsFrom, goes_on, if_neg Bool.false_ne_true,
        s.ofString_word]
      change (Reading.step .outer { given } s.word >>= fun r => ofWordsFrom r _) = _
      rw [settable.step_word]
      exact ih settable.tail

theorem isName_name (command : Command) : isName command.name = true := by
  cases command with
  | selftest filter => exact (by decide : isName "selftest" = true)
  | compare kind result expected todo note => exact (by decide : isName "compare" = true)

/-- The law of written command lines.  Words that say an invocation are read as it, in
every order of the settings and wherever the operands stand. -/
theorem ofWords_written {i : Invocation} (path : i.config ≠ some "") {words : List String}
    (written : i.Written words) : ofWords words = .ok i := by
  obtain @⟨order, words, all, command⟩ := written
  obtain ⟨rest, rfl, read⟩ := command.ofWords_eq
  have settable := settable_settings path
  have line := ofWordsFrom_settings (settable.perm all) (isName_name i.command) read
  have many : order.map Setting.word ++ i.command.name :: rest ≠ [compareName] := by
    -- The name of the comparison alone lacks its operands.
    intro alone
    rw [alone] at line
    cases line
  rw [ofWords, if_neg many, line, settable.foldl_give all]
  obtain ⟨logLevel, config, command⟩ := i
  cases logLevel <;> cases config <;> rfl

/-- Texts that look like options and commands, between the settings and behind two hyphens. -/
theorem ofWords_written_lookalikes :
    let i : Invocation :=
      { logLevel := some "--config=x", config := some "-=",
        command := .compare .double "compare" "" true (some "--kind=int") }
    let mixed := ["--config=-=", "--log-level=--config=x", "compare", "compare",
      "--note=--kind=int", "--todo", "", "--kind=double"]
    let j : Invocation :=
      { logLevel := none, config := none, command := .compare .bool "--todo" "--" false none }
    let ended := ["compare", "--kind=bool", "--", "--todo", "--"]
    (i.config ≠ some "" ∧ i.Written mixed ∧ ofWords mixed = .ok i) ∧
      j.config ≠ some "" ∧ j.Written ended ∧ ofWords ended = .ok j := by
  intro i mixed j ended
  have path : i.config ≠ some "" := by decide
  have path' : j.config ≠ some "" := by decide
  have outer : [Setting.config "-=", .logLevel "--config=x"].Perm i.settings := .swap ..
  have inner : [.note "--kind=int", .todo, .kind .double].Perm i.command.settings := by decide
  have between : Mixed [.note "--kind=int", .todo, .kind .double] ["compare", ""]
      ["compare", "--note=--kind=int", "--todo", "", "--kind=double"] :=
    .operand (.setting (.setting (.operand (.setting .nil))))
  have written : i.Written mixed := .intro outer (.mixed inner (by decide) between)
  have alone : [Setting.kind .bool].Perm j.command.settings := .refl _
  have behind : j.command.Written ended := .ended alone
  have none : ([] : List Setting).Perm j.settings := .refl _
  have written' : j.Written ended := .intro none behind
  exact ⟨⟨path, written, ofWords_written path written⟩, path', written',
    ofWords_written path' written'⟩

end Invocation

end CheckHarness
