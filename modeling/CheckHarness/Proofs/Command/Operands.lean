import CheckHarness.Command.Reading
import CheckHarness.Proofs.Binary.Numeral

/-!
# Numbers as operands

The operands of a comparison may start with a hyphen, and so may its options.  A word
with one hyphen in front counts as an operand when one of its letters is no short option,
and a word without a hyphen in front is an operand anyhow.  Such words are *free*.

The text of a number is free.  Behind its sign it does not start with another hyphen, so
it is no long option.  And it has a character that is no short option: a digit, the `i`
of an infinity, or the `a` of what is no number.  The `n` in front of that `a` does name
an option, so one letter alone would not settle it.

`ofWords_numeric` is what follows for the command line.
-/

namespace CheckHarness

namespace Command

/-! ## Free words -/

/-- No option of the scope starts with the word. -/
inductive Free (scope : Scope) (word : String) : Prop where
  | plain (form : Word.ofString word = .plain)
  | short (letters : List Char) (form : Word.ofString word = .short letters)
      (unknown : ∃ c ∈ letters, scope.ofShort? c = none)

namespace Free

variable {scope : Scope} {word : String}

/-- While an operand is still to come, a free word is a plain one. -/
theorem step_eq_plain (free : Free scope word) {r : Reading} (room : r.hasPlace scope = true) :
    r.step scope word = r.plain scope word := by
  cases ended : r.ended with
  | true => simp only [Reading.step, ended, if_true]
  | false =>
      cases free with
      | plain form => simp only [Reading.step, ended, form, Bool.false_eq_true, if_false]
      | short letters form unknown =>
          obtain ⟨c, mem, none⟩ := unknown
          have some_unknown :
              letters.any (fun letter => (scope.ofShort? letter).isNone) = true :=
            List.any_eq_true.mpr ⟨c, mem, by rw [none]; rfl⟩
          simp only [Reading.step, ended, form, Reading.short, room, some_unknown,
            Bool.false_eq_true, if_false, Bool.and_self, if_true]

/-- When no option waits for a value, a free word is an operand. -/
theorem step_eq_operand (free : Free scope word) {r : Reading} (room : r.hasPlace scope = true)
    (unasked : r.wantsValue = false) : r.step scope word = r.operand word := by
  rw [free.step_eq_plain room, Reading.plain, unasked]
  simp only [room, if_true]

end Free

/-! ## Words by their first character -/

theorem ofChars_of_head_ne {chars : List Char} (head : chars.head? ≠ some '-') :
    Word.ofChars chars = .plain := by
  cases chars with
  | nil => rfl
  | cons c rest =>
      have ne : c ≠ '-' := by
        rintro rfl
        exact head rfl
      unfold Word.ofChars
      split <;> simp_all

theorem ofChars_hyphen {letters : List Char} (nonempty : letters ≠ [])
    (head : letters.head? ≠ some '-') : Word.ofChars ('-' :: letters) = .short letters := by
  cases letters with
  | nil => exact absurd rfl nonempty
  | cons c rest =>
      have ne : c ≠ '-' := by
        rintro rfl
        exact head rfl
      unfold Word.ofChars
      split <;> simp_all

/-- What stands behind the sign of a number: it does not start with a hyphen, and some
character of it is no short option. -/
structure Unsigned (body : List Char) : Prop where
  head : body.head? ≠ some '-'
  unknown : ∃ c ∈ body, Scope.compare.ofShort? c = none

theorem Unsigned.free {word : String} (unsigned : Unsigned (splitSign word.toList).2) :
    Free .compare word := by
  obtain ⟨head, unknown⟩ := unsigned
  cases chars : word.toList with
  | nil => exact .plain (by rw [Word.ofString, chars]; rfl)
  | cons c rest =>
      rw [chars] at head unknown
      by_cases minus : c = '-'
      · subst minus
        obtain ⟨d, mem, none⟩ := unknown
        refine .short rest ?_ ⟨d, mem, none⟩
        rw [Word.ofString, chars]
        exact ofChars_hyphen (List.ne_nil_of_mem mem) head
      · refine .plain ?_
        rw [Word.ofString, chars]
        refine ofChars_of_head_ne ?_
        rw [List.head?_cons]
        exact fun same => minus (Option.some.inj same)

/-! ## Numbers -/

theorem ofShort?_eq_none {c : Char} (kind : c ≠ 'k') (note : c ≠ 'n') (help : c ≠ 'h') :
    Scope.compare.ofShort? c = none := by
  simp [Scope.ofShort?, Scope.options, Opt.short?, kind.symm, note.symm, help.symm]

/-- A digit is no short option. -/
theorem ofShort?_of_isDigit {c : Char} (digit : c.isDigit = true) :
    Scope.compare.ofShort? c = none := by
  refine ofShort?_eq_none ?_ ?_ ?_ <;>
    · rintro rfl
      cases digit

theorem ne_of_toLower {c d e : Char} (lower : c.toLower = d) (ne : e.toLower ≠ d) : c ≠ e := by
  rintro rfl
  exact ne lower

/-- A letter other than those of the short options is none in either case. -/
theorem ofShort?_of_toLower {c d : Char} (lower : c.toLower = d) (kind : 'k' ≠ d) (note : 'n' ≠ d)
    (help : 'h' ≠ d) : Scope.compare.ofShort? c = none :=
  ofShort?_eq_none (ne_of_toLower lower kind) (ne_of_toLower lower note) (ne_of_toLower lower help)

/-- What is read as digits is a row of them. -/
theorem row_of_digitsValue? {text : List Char} {n : Nat} (value : digitsValue? text = some n) :
    text ≠ [] ∧ IsRow text := by
  unfold digitsValue? at value
  split at value
  · rename_i row
    exact ⟨row.1, List.all_eq_true.mp row.2⟩
  · cases value

theorem unsigned_of_digits {body : List Char} {n : Nat} (value : digitsValue? body = some n) :
    Unsigned body := by
  obtain ⟨nonempty, row⟩ := row_of_digitsValue? value
  obtain ⟨c, rest, rfl⟩ := List.exists_cons_of_ne_nil nonempty
  refine ⟨?_, c, List.mem_cons_self, ofShort?_of_isDigit row.head⟩
  intro head
  rw [Option.some.inj head] at row
  cases row.head

theorem mem_of_mem_splitFraction {c : Char} {text : List Char}
    (mem : c ∈ (Numeral.splitFraction text).1) : c ∈ text := by
  unfold Numeral.splitFraction at mem
  split at mem
  · exact List.mem_cons_of_mem _ ((List.takeWhile_sublist _).subset mem)
  · cases mem

/-- A decimal without its sign. -/
theorem unsigned_of_decimal {negative : Bool} {body : List Char} {numeral : Numeral}
    (read : Numeral.decimalOfText? negative body = some numeral) : Unsigned body := by
  obtain ⟨coefficient, value, _⟩ := Option.bind_eq_some_iff.mp read
  obtain ⟨nonempty, row⟩ := row_of_digitsValue? value
  obtain ⟨c, mem⟩ := List.exists_mem_of_ne_nil _ nonempty
  refine ⟨?_, c, ?_, ofShort?_of_isDigit (row c mem)⟩
  · -- Behind a hyphen there would be neither digits nor a point.
    intro head
    obtain ⟨rest, rfl⟩ := List.head?_eq_some_iff.mp head
    cases mem
  · rcases List.mem_append.mp mem with whole | fraction
    · exact (List.takeWhile_sublist _).subset whole
    · exact (List.dropWhile_sublist _).subset (mem_of_mem_splitFraction fraction)

/-- The words for infinity, in any letter case. -/
theorem unsigned_of_infinity {body rest : List Char} (word : body.map Char.toLower = 'i' :: rest) :
    Unsigned body := by
  cases body with
  | nil => cases word
  | cons c body =>
      have lower : c.toLower = 'i' := (List.cons.inj word).1
      refine ⟨?_, c, List.mem_cons_self, ?_⟩
      · intro head
        exact ne_of_toLower lower (by decide) (Option.some.inj head)
      · exact ofShort?_of_toLower lower (by decide) (by decide) (by decide)

/-- The word for what is no number, in any letter case. -/
theorem unsigned_of_nan {body rest : List Char}
    (word : body.map Char.toLower = 'n' :: 'a' :: rest) : Unsigned body := by
  match body, word with
  | [], word => cases word
  | [_], word => cases (List.cons.inj word).2
  | c :: d :: body, word =>
      have first : c.toLower = 'n' := (List.cons.inj word).1
      have second : d.toLower = 'a' := (List.cons.inj (List.cons.inj word).2).1
      refine ⟨?_, d, List.mem_cons_of_mem _ List.mem_cons_self, ?_⟩
      · intro head
        exact ne_of_toLower first (by decide) (Option.some.inj head)
      · exact ofShort?_of_toLower second (by decide) (by decide) (by decide)

theorem unsigned_of_integer {text : List Char} {n : Int} (read : integerOfText? text = some n) :
    Unsigned (splitSign text).2 := by
  cases digits : digitsValue? (splitSign text).2 with
  | none => simp [integerOfText?, digits] at read
  | some value => exact unsigned_of_digits digits

theorem unsigned_of_numeral {text : List Char} {numeral : Numeral}
    (read : Numeral.ofText? text = some numeral) : Unsigned (splitSign text).2 := by
  unfold Numeral.ofText? at read
  dsimp only at read
  split at read
  · rename_i word
    rcases word with word | word
    · exact unsigned_of_infinity word
    · exact unsigned_of_infinity word
  · split at read
    · rename_i word
      exact unsigned_of_nan word
    · exact unsigned_of_decimal read

/-- The kinds of numbers. -/
def numericKinds : List Kind := [.int, .long, .float, .double]

/-- The text of a number is free. -/
theorem free_of_parse {kind : Kind} (numeric : kind ∈ numericKinds) {text : String} {value : Value}
    (read : Value.parse kind text = .ok value) : Free .compare text := by
  have some_value : ∃ value, Value.ofText? kind text = some value := by
    unfold Value.parse at read
    split at read
    · rename_i value value_eq
      exact ⟨value, value_eq⟩
    · cases read
  obtain ⟨value, some_value⟩ := some_value
  have integer {least greatest n : Int}
      (within : Value.integerWithin? least greatest text = some n) : Free .compare text :=
    (unsigned_of_integer (Option.filter_eq_some_iff.mp within).1).free
  have binary {f : Format} {x : Binary f} (read : Value.binaryOfText? f text = some x) :
      Free .compare text := by
    obtain ⟨numeral, spelled, _⟩ := Option.map_eq_some_iff.mp read
    exact (unsigned_of_numeral spelled).free
  cases kind with
  | bool => simp [numericKinds] at numeric
  | object => simp [numericKinds] at numeric
  | int =>
      obtain ⟨n, within, _⟩ := Option.map_eq_some_iff.mp some_value
      exact integer within
  | long =>
      obtain ⟨n, within, _⟩ := Option.map_eq_some_iff.mp some_value
      exact integer within
  | float =>
      obtain ⟨x, read, _⟩ := Option.map_eq_some_iff.mp some_value
      exact binary read
  | double =>
      obtain ⟨x, read, _⟩ := Option.map_eq_some_iff.mp some_value
      exact binary read

/-! ## The words of a comparison -/

/-- The words behind the name of the comparison: the kind and two free words. -/
theorem compareOfWords_of_free (kind : Kind) {result expected : String}
    (free : Free .compare result) (free' : Free .compare expected) :
    compareOfWords ["--kind", kind.name, result, expected] =
      .ok (.compare kind result expected false none) := by
  have option : Reading.step .compare {} "--kind" = .ok { waiting := some (.kind, none) } :=
    rfl
  have value : Reading.step .compare { waiting := some (.kind, none) } kind.name =
      .ok { waiting := some (.kind, some kind.name) } := by
    cases kind <;> rfl
  have first : Reading.step .compare { waiting := some (.kind, some kind.name) } result =
      .ok { given := { kind := some kind, operands := [result] } } := by
    rw [free.step_eq_operand rfl rfl]
    cases kind <;> rfl
  have second : Reading.step .compare { given := { kind := some kind, operands := [result] } }
      expected = .ok { given := { kind := some kind, operands := [result, expected] } } := by
    rw [free'.step_eq_operand rfl rfl]
    rfl
  have read : Reading.steps .compare ["--kind", kind.name, result, expected] =
      .ok { kind := some kind, operands := [result, expected] } := by
    simp only [Reading.steps, List.foldlM_cons, List.foldlM_nil, option, value, first, second,
      bind, Except.bind]
    rfl
  rw [compareOfWords, read]
  rfl

end Command

/-! ## Command lines -/

namespace Invocation

open Command

/-- The law of numeric operands.  Texts of numbers of a kind reach the comparison at that
kind.  Wherever an operand is still to come, each of them is a plain word and no option. -/
theorem ofWords_numeric (kind : Kind) (numeric : kind ∈ numericKinds) (result expected : String)
    (read : ∃ value, Value.parse kind result = .ok value)
    (read' : ∃ value, Value.parse kind expected = .ok value) :
    ofWords ["compare", "--kind", kind.name, result, expected] =
        .ok { logLevel := none, config := none,
              command := .compare kind result expected false none } ∧
      ∀ r : Reading, r.hasPlace .compare = true →
        r.step .compare result = r.plain .compare result ∧
          r.step .compare expected = r.plain .compare expected := by
  obtain ⟨_, read⟩ := read
  obtain ⟨_, read'⟩ := read'
  have free := free_of_parse numeric read
  have free' := free_of_parse numeric read'
  refine ⟨?_, fun r room => ⟨free.step_eq_plain room, free'.step_eq_plain room⟩⟩
  have named : Command.ofWords "compare" ["--kind", kind.name, result, expected] =
      .ok (.compare kind result expected false none) := compareOfWords_of_free kind free free'
  have many : ["compare", "--kind", kind.name, result, expected] ≠ [compareName] := by
    simp [compareName]
  rw [ofWords, if_neg many]
  have name : (isName "compare" && !({} : Reading).wantsValue && !({} : Reading).ended) = true := by
    decide
  rw [ofWordsFrom, if_pos name, named]
  rfl

/-- The letter behind the hyphen names an option, and the text is still an operand. -/
theorem ofWords_numeric_nan :
    (∃ value, Value.parse .double "-nan" = .ok value) ∧
      (∃ value, Value.parse .double "-1E5" = .ok value) ∧
      ofWords ["compare", "--kind", "double", "-nan", "-1E5"] =
        .ok { logLevel := none, config := none,
              command := .compare .double "-nan" "-1E5" false none } :=
  ⟨⟨_, rfl⟩, ⟨_, rfl⟩,
    (ofWords_numeric .double (by decide) "-nan" "-1E5" ⟨_, rfl⟩ ⟨_, rfl⟩).1⟩

end Invocation

end CheckHarness
