import CheckHarness.Proofs.Harness.Emission
import CheckHarness.Proofs.Value.RoundTrip

/-!
# Notes of visual checks

A visual check leaves a note that shows a message, a count and a limit.  The message may
hold anything, so it may look like the rest of a note.  But the count and the limit hold no
blank.  So a note is read from its right end: the last word is the limit, the last word
before the sign `>` is the count, and what stands before it is the message.

`ofText?_text` says that reading gives back what was written, so no two checks leave the same
note unless they agree in all three parts.  `compareVisual_audited` puts this together with
what a visual check does: everything it went by can be seen in its note.
-/

namespace CheckHarness

/-- What the note of a visual check shows. -/
structure VisualNote where
  message : String
  /-- By how many pixels the output differed. -/
  differing : Int32
  /-- By how many pixels it was allowed to differ. -/
  limit : Int32
deriving DecidableEq

namespace VisualNote

/-- The note as it is written. -/
def text (note : VisualNote) : String :=
  note.message ++ ". " ++ shown note.differing ++ " > " ++ shown note.limit

/-- The outcome that a note calls for. -/
def verdict (note : VisualNote) : Outcome :=
  if note.differing ≤ note.limit then .pass else .fail

/-! ## Reading from the right -/

/-- The integer that a word shows. -/
def integerOfWord? (word : List Char) : Option Int32 :=
  (Value.integerWithin? Int32.minValue.toInt Int32.maxValue.toInt (String.ofList word)).map
    Int32.ofInt

/-- Whether a character is part of a word. -/
def isInWord (c : Char) : Bool := c ≠ ' '

/-- Reads a note that is written from its right end to its left. -/
def ofReversed? (reversed : List Char) : Option VisualNote :=
  match reversed.dropWhile isInWord with
  | ' ' :: '>' :: ' ' :: front =>
    match front.dropWhile isInWord with
    | ' ' :: '.' :: message => do
      let differing ← integerOfWord? (front.takeWhile isInWord).reverse
      let limit ← integerOfWord? (reversed.takeWhile isInWord).reverse
      return ⟨String.ofList message.reverse, differing, limit⟩
    | _ => none
  | _ => none

/-- Reads a note. -/
def ofText? (text : String) : Option VisualNote := ofReversed? text.toList.reverse

/-! ## Words -/

theorem integerOfWord?_shown (n : Int32) : integerOfWord? (shown n).toList = some n := by
  have read := Value.integerWithin?_repr n.minValue_le_toInt n.toInt_le
  have text : String.ofList (shown n).toList = n.toInt.repr := String.ofList_toList
  rw [integerOfWord?, text, read, Option.map_some, Int32.ofInt_toInt]

/-- The text of an integer is one word. -/
theorem isInWord_of_mem_shown {n : Int32} {c : Char} (mem : c ∈ (shown n).toList) :
    isInWord c = true := by
  have digit {m : Nat} (mem : c ∈ Nat.toDigits 10 m) : isInWord c = true := by
    have digit := IsRow.toDigits m c mem
    refine decide_eq_true ?_
    rintro rfl
    cases digit
  have text : (shown n).toList = (toString n.toInt).toList := rfl
  rw [text] at mem
  cases value : n.toInt with
  | ofNat m =>
      rw [value, toList_toString_ofNat] at mem
      exact digit mem
  | negSucc m =>
      rw [value, toList_toString_negSucc] at mem
      rcases List.mem_cons.mp mem with rfl | mem
      · rfl
      · exact digit mem

section Reversed

variable (n : Int32) (rest : List Char)

theorem takeWhile_shown :
    ((shown n).toList.reverse ++ ' ' :: rest).takeWhile isInWord = (shown n).toList.reverse := by
  have word : ∀ c ∈ (shown n).toList.reverse, isInWord c = true :=
    fun c mem => isInWord_of_mem_shown (List.mem_reverse.mp mem)
  rw [List.takeWhile_append_of_pos word, List.takeWhile_cons_of_neg (by decide), List.append_nil]

theorem dropWhile_shown :
    ((shown n).toList.reverse ++ ' ' :: rest).dropWhile isInWord = ' ' :: rest := by
  have word : ∀ c ∈ (shown n).toList.reverse, isInWord c = true :=
    fun c mem => isInWord_of_mem_shown (List.mem_reverse.mp mem)
  rw [List.dropWhile_append_of_pos word, List.dropWhile_cons_of_neg (by decide)]

end Reversed

/-! ## Notes -/

/-- Reading gives back what was written. -/
theorem ofText?_text (note : VisualNote) : ofText? note.text = some note := by
  obtain ⟨message, differing, limit⟩ := note
  have reversed : (text ⟨message, differing, limit⟩).toList.reverse =
      (shown limit).toList.reverse ++ ' ' :: '>' :: ' ' ::
        ((shown differing).toList.reverse ++ ' ' :: '.' :: message.toList.reverse) := by
    simp [text]
  rw [ofText?, reversed]
  simp only [ofReversed?, dropWhile_shown, takeWhile_shown, List.reverse_reverse,
    integerOfWord?_shown, String.ofList_toList]
  rfl

/-- A message may look like a note itself. -/
example : ofText? "a. 1 > 2. -3 > 4" = some ⟨"a. 1 > 2", -3, 4⟩ := by decide

/-- A note is left by no other message, count and limit. -/
theorem text_injective : Function.Injective text := by
  intro note note' same
  have read := ofText?_text note
  rw [same, ofText?_text] at read
  exact (Option.some.inj read).symm

end VisualNote

/-! ## Visual checks -/

namespace Harness

open Reporter

/-- The law of visual checks.  From any state of a harness, a visual check asks the counter
once, for the reference it is about.  It tells the reporter one event, an outcome under the
note that it leaves, and changes nothing else.

The note shows the message, the count and the limit, and no other three leave the same note.
The outcome is the one that the note calls for when it is read: a pass if the count is within
the limit, and a failure otherwise. -/
theorem compareVisual_audited (pixels : PixelCounter) (reference : String) (limit : Int32)
    (message : String) :
    let note : VisualNote := ⟨message, pixels reference, limit⟩
    (∀ (ρ : Type) [Reporter ρ] (h : Harness ρ),
      let done := (compareVisual pixels reference limit message).run h
      let event : Event := .outcome ⟨done.value, some note.text⟩
      done.calls = [.countDiffering reference] ∧
        done.harness =
          { h with note := some note.text, reporter := (report h.reporter event).1 } ∧
        (VisualNote.ofText? note.text).map VisualNote.verdict = some done.value) ∧
    (∀ h : Harness Tally,
      let done := (compareVisual pixels reference limit message).run h
      done.harness.reporter.events =
        h.reporter.events ++ [.outcome ⟨done.value, done.harness.note⟩]) ∧
    VisualNote.ofText? note.text = some note ∧
    ∀ other : VisualNote, other.text = note.text ↔ other = note := by
  intro note
  have reads : VisualNote.ofText? note.text = some note := note.ofText?_text
  refine ⟨?_, ?_, reads, fun other => VisualNote.text_injective.eq_iff⟩
  · intro ρ _ h done event
    have ran := run_compareVisual pixels reference limit message h
    refine ⟨?_, ?_, ?_⟩
    · simp only [done, ran]
    · simp only [done, event, ran, emit_harness, emit_value, receive_wrote, receive_told,
        receive_nil]
      rfl
    · rw [reads, Option.map_some]
      simp only [done, ran, emit_value, VisualNote.verdict, Outcome.ofCheck, decide_eq_true_eq]
      rfl
  · intro h done
    have ran := run_compareVisual pixels reference limit message h
    simp only [done, ran, emit_harness, emit_value, receive_tally]
    rfl

end Harness

end CheckHarness
