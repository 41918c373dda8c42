import Mathlib.Data.String.Basic
import CheckHarness.Proofs.Program.Precedence
import CheckHarness.Proofs.Text.Quoted

/-!
# Texts that cannot be read

The message about a text that cannot be read names the kind and quotes the text.  The name of
a kind holds no blank, so it ends at the second blank of the message, and the text can be read
back from the quotes.  So a message tells which text was refused at which kind
(`InvalidValue.message_injective`).

Nothing that breaks a line is left between the quotes.  So a message takes one line, also as
the cause of a comparison that could not be made (`causeLines_of_notMem`).

`unreadable_identified` says both, and how each character stands between the quotes.
-/

namespace CheckHarness

/-! ## Messages -/

theorem Kind.blank_notMem_name (kind : Kind) : ' ' ∉ kind.name.toList := by
  cases kind <;> decide

theorem Kind.name_injective {kind kind' : Kind} (same : kind.name = kind'.name) :
    kind = kind' := by
  have read := congrArg Kind.ofName? same
  rw [Kind.ofName?_name, Kind.ofName?_name, Option.some.injEq] at read
  exact read

namespace InvalidValue

/-- The name of the kind is what stands before the first blank. -/
theorem takeWhile_name (kind : Kind) (rest : List Char) :
    (kind.name.toList ++ ' ' :: rest).takeWhile (· ≠ ' ') = kind.name.toList := by
  have word : ∀ c ∈ kind.name.toList, decide (c ≠ ' ') = true := by
    intro c mem
    exact decide_eq_true (ne_of_mem_of_not_mem mem kind.blank_notMem_name)
  rw [List.takeWhile_append_of_pos word, List.takeWhile_cons_of_neg (by decide), List.append_nil]

theorem toList_message (e : InvalidValue) :
    e.message.toList =
      "Invalid ".toList ++ (e.kind.name.toList ++ ' ' ::
        ("value: ".toList ++ (Quoted.quote e.input).toList)) := by
  simp [message]

theorem message_injective {e e' : InvalidValue} (same : e.message = e'.message) : e = e' := by
  obtain ⟨kind, input⟩ := e
  obtain ⟨kind', input'⟩ := e'
  have chars := congrArg String.toList same
  rw [toList_message, toList_message, List.append_cancel_left_eq] at chars
  have names := congrArg (List.takeWhile (· ≠ ' ')) chars
  rw [takeWhile_name, takeWhile_name] at names
  obtain rfl := Kind.name_injective (String.toList_inj.mp names)
  rw [List.append_cancel_left_eq, List.cons.injEq, List.append_cancel_left_eq] at chars
  obtain rfl := Quoted.quote_injective (String.toList_inj.mp chars.2)
  rfl

theorem not_isNumbered_of_mem_message {e : InvalidValue} {c : Char} (mem : c ∈ e.message.toList) :
    Quoted.isNumbered c = false := by
  have letter {text : List Char} (mem : c ∈ text)
      (plain : text.all ascii.covers = true) : Quoted.isNumbered c = false :=
    Quoted.not_isNumbered_of_ascii (List.all_eq_true.mp plain c mem)
  simp only [message, String.toList_append, List.mem_append] at mem
  rcases mem with ((mem | mem) | mem) | mem
  · exact letter mem (by decide +kernel)
  · exact letter mem (by cases e.kind <;> decide +kernel)
  · exact letter mem (by decide +kernel)
  · exact Quoted.not_isNumbered_of_mem_quote mem

/-- A message holds neither a control nor an end of a line. -/
theorem unbroken {e : InvalidValue} {c : Char} (mem : c ∈ e.message.toList) :
    isControl c = false ∧ endsLine c = false := by
  have plain := not_isNumbered_of_mem_message mem
  rw [Quoted.isNumbered, Bool.or_eq_false_iff] at plain
  have printable := Bool.eq_false_iff.mp plain.2
  exact ⟨Bool.eq_false_iff.mpr (mt isUnprintable_of_isControl printable),
    Bool.eq_false_iff.mpr (mt isUnprintable_of_endsLine printable)⟩

theorem lineFeed_notMem_message (e : InvalidValue) : '\n' ∉ e.message.toList := by
  intro mem
  cases (unbroken mem).2

end InvalidValue

namespace Program

/-! ## Causes of one line -/

open String in
/-- From any place on, a text without a line feed is one piece. -/
theorem splitOnAux_of_notMem (before rest : List Char) (none : '\n' ∉ rest) :
    (String.ofList (before ++ rest)).splitOnAux "\n" 0 ⟨utf8Len before⟩ 0 [] =
      [String.ofList (before ++ rest)] := by
  induction rest generalizing before with
  | nil =>
      have whole := extract_of_valid [] before []
      rw [splitOnAux, if_pos ((atEnd_of_valid before []).mpr rfl)]
      simpa using whole
  | cons c rest ih =>
      have goes := mt (atEnd_of_valid before (c :: rest)).mp (List.cons_ne_nil c rest)
      have differs : ¬(Pos.Raw.get (String.ofList (before ++ c :: rest)) ⟨utf8Len before⟩ ==
          Pos.Raw.get "\n" 0) = true := by
        rw [get_of_valid]
        intro same
        have newline : Pos.Raw.get "\n" 0 = '\n' := get_of_valid [] ['\n']
        rw [newline] at same
        exact none (by simpa using Or.inl (beq_iff_eq.mp same).symm)
      have step : Pos.Raw.next (String.ofList (before ++ c :: rest))
          (Pos.Raw.unoffsetBy ⟨utf8Len before⟩ 0) = ⟨utf8Len (before ++ [c])⟩ := by
        have here : Pos.Raw.unoffsetBy ⟨utf8Len before⟩ 0 = ⟨utf8Len before⟩ := rfl
        rw [here, next_of_valid]
        simp
      have later := ih (before ++ [c]) fun mem => none (List.mem_cons_of_mem c mem)
      rw [List.append_assoc, List.singleton_append] at later
      rw [splitOnAux, if_neg goes, if_neg differs, step, later]

theorem splitOn_of_notMem {text : String} (none : '\n' ∉ text.toList) :
    text.splitOn "\n" = [text] := by
  have split := splitOnAux_of_notMem [] text.toList none
  rw [List.nil_append, String.ofList_toList] at split
  exact split

theorem causeLines_of_notMem {cause : String} (none : '\n' ∉ cause.toList) :
    Failure.causeLines [cause] = ["    " ++ cause] := by
  rw [Failure.causeLines, Failure.indented, splitOn_of_notMem none]
  rfl

/-! ## What a run shows of them -/

theorem error_of_first {lookup : String → Lookup} {words : List String} {invocation : Invocation}
    {failure : Failure} {e : InvalidValue} (environment : Option String)
    (parsed : Invocation.ofWords words = .ok invocation)
    (first : First lookup invocation failure) (cause : failure.causes = [e.message]) :
    (run lookup environment words).error =
      ["Error: " ++ failure.context, "", "Caused by:", "    " ++ e.message] := by
  have stops := stops_of_attempt environment (attempt_eq_error_iff.mpr first)
  rw [run, parsed, stops.error, cause, causeLines_of_notMem e.lineFeed_notMem_message]
  rfl

/-- A text that cannot be read is told by its message.

* No two messages are alike unless both the kinds and the texts are the same.
* Between the quotes of a message the characters of the text stand one after the other, each
  as a letter behind a backslash, as its number or as itself.  Reading gives back the text.
* No message holds a control or an end of a line.
* A run that stops for such a text shows four lines, of which the last is the message. -/
theorem unreadable_identified (lookup : String → Lookup) (environment : Option String) :
    (∀ e e' : InvalidValue, e.message = e'.message → e = e') ∧
      (∀ e : InvalidValue, ∃ pieces, List.Forall₂ Quoted.Stands e.input.toList pieces ∧
        e.message =
          "Invalid " ++ e.kind.name ++ " value: \"" ++ String.ofList pieces.flatten ++ "\"" ∧
        Quoted.decode pieces.flatten = some e.input.toList) ∧
      (∀ e : InvalidValue, ∀ c ∈ e.message.toList, isControl c = false ∧ endsLine c = false) ∧
      ∀ words invocation, Invocation.ofWords words = .ok invocation → ∀ e : InvalidValue,
        let shown := run lookup environment words
        (First lookup invocation (.result e) →
          shown.error = ["Error: Invalid RESULT", "", "Caused by:", "    " ++ e.message]) ∧
        (First lookup invocation (.expected e) →
          shown.error = ["Error: Invalid EXPECTED", "", "Caused by:", "    " ++ e.message]) := by
  refine ⟨fun e e' => InvalidValue.message_injective, fun e => ?_,
    fun e c => InvalidValue.unbroken, fun words invocation parsed e => ⟨?_, ?_⟩⟩
  · obtain ⟨pieces, stand, written⟩ := Quoted.stands_encode e.input.toList
    refine ⟨pieces, stand, ?_, written ▸ Quoted.decode_encode e.input.toList⟩
    rw [← String.toList_inj, InvalidValue.toList_message, Quoted.quote, written]
    simp
  · exact fun first => error_of_first environment parsed first rfl
  · exact fun first => error_of_first environment parsed first rfl

/-- A text of a digit, a line feed, a mark that extends what stands before it, and a quote is
no integer. -/
theorem unreadable_identified_marks :
    let words := ["compare", "--kind=int", "1\n\u0301\"", "2"]
    let invocation : Invocation := 
      { logLevel := none, config := none, command := .compare .int "1\n\u0301\"" "2" false none }
    Invocation.ofWords words = .ok invocation ∧
      First (fun _ => .missing) invocation (.result ⟨.int, "1\n\u0301\""⟩) ∧
      (run (fun _ => .missing) none words).error =
        ["Error: Invalid RESULT", "", "Caused by:",
          "    Invalid int value: \"1\\n\\u\x7b301\x7d\\\"\""] := by
  intro words invocation
  have parsed : Invocation.ofWords words = .ok invocation := by decide
  have unread : ∀ value, Value.parse .int "1\n\u0301\"" ≠ .ok value := by
    intro value
    rw [show Value.parse .int "1\n\u0301\"" = .error ⟨.int, "1\n\u0301\""⟩ from rfl]
    exact nofun
  have first : First (fun _ => .missing) invocation (.result ⟨.int, "1\n\u0301\""⟩) := by
    refine ⟨.result rfl unread, fun other present => ?_⟩
    cases present with
    | settings given => cases given
    | result => exact Nat.le_refl _
    | expected => exact Nat.le_succ 1
  obtain ⟨-, -, -, shows⟩ := unreadable_identified (fun _ => .missing) none
  have message : (⟨.int, "1\n\u0301\""⟩ : InvalidValue).message =
      "Invalid int value: \"1\\n\\u\x7b301\x7d\\\"\"" := by decide +kernel
  refine ⟨parsed, first, ?_⟩
  rw [(shows words invocation parsed _).1 first, message]
  rfl

end Program

end CheckHarness
