import CheckHarness.Proofs.Document.RoundTrip
import CheckHarness.Proofs.Settings.Schema
import Mathlib.Algebra.Group.Nat.Defs

/-!
# Settings decode faithfully

A document that says an interval, a word for the log, both or neither is decoded as just
that, in whatever way it is written.  The interval has to fit into 64 bits and must not be
negative, and zero has an error of its own.

A document with another key, or with the same key twice, is malformed.  So is one in which
a key goes on behind a dot.  What stands behind the key plays no part, and neither does
what the lines before it say.

Whatever the document, the interval that comes out of it is positive and fits into 64 bits.
`ofDocument_law` puts this together.
-/

namespace CheckHarness.Settings

open Document

/-! ## The entries that give settings -/

/-- The entry for an interval. -/
def pollEntries (poll : Option Int) : List Entry :=
  (poll.map fun n => ⟨pollKey, .integer n⟩).toList

/-- The entry for a word for the log. -/
def levelEntries (level : Option String) : List Entry :=
  (level.map fun word => ⟨levelKey, .text word⟩).toList

/-- The entries for both, in either order. -/
def Gives (poll : Option Int) (level : Option String) (entries : List Entry) : Prop :=
  entries = pollEntries poll ++ levelEntries level ∨
    entries = levelEntries level ++ pollEntries poll

section Gives

variable {poll : Option Int} {level : Option String} {entries : List Entry} {text : List Char}

theorem mem_pollEntries {entry : Entry} :
    entry ∈ pollEntries poll ↔ ∃ n ∈ poll, entry = ⟨pollKey, .integer n⟩ := by
  cases poll with
  | none => simp [pollEntries]
  | some n => simp [pollEntries]

theorem mem_levelEntries {entry : Entry} :
    entry ∈ levelEntries level ↔ ∃ word ∈ level, entry = ⟨levelKey, .text word⟩ := by
  cases level with
  | none => simp [levelEntries]
  | some word => simp [levelEntries]

theorem Gives.mem_iff (gives : Gives poll level entries) {entry : Entry} :
    entry ∈ entries ↔ (∃ n ∈ poll, entry = ⟨pollKey, .integer n⟩) ∨
      ∃ word ∈ level, entry = ⟨levelKey, .text word⟩ := by
  rw [← mem_pollEntries, ← mem_levelEntries]
  rcases gives with rfl | rfl
  · exact List.mem_append
  · exact List.mem_append.trans or_comm

theorem Gives.inRange_iff (gives : Gives poll level entries) :
    (∀ entry ∈ entries, entry.datum.InRange) ↔ ∀ n ∈ poll, InRange n := by
  constructor
  · intro all n mem
    exact all _ (gives.mem_iff.mpr (Or.inl ⟨n, mem, rfl⟩))
  · intro all entry mem
    rcases gives.mem_iff.mp mem with ⟨n, there, rfl⟩ | ⟨word, there, rfl⟩
    · exact all n there
    · trivial

theorem Gives.distinct (gives : Gives poll level entries) : (entries.map Entry.key).Nodup := by
  have differ := levelKey_ne_pollKey
  rcases gives with rfl | rfl <;> cases poll <;> cases level <;>
    simp [pollEntries, levelEntries, differ, differ.symm]

theorem Gives.wellFormed_iff (gives : Gives poll level entries) :
    WellFormed entries ↔ ∀ n ∈ poll, 0 ≤ n := by
  constructor
  · intro wellFormed n mem
    exact (wellFormed.fits _ (gives.mem_iff.mpr (Or.inl ⟨n, mem, rfl⟩))).nonneg rfl
  · intro low
    refine ⟨gives.distinct, fun entry mem => ?_⟩
    rcases gives.mem_iff.mp mem with ⟨n, there, rfl⟩ | ⟨word, there, rfl⟩
    · obtain ⟨n, rfl⟩ := Int.eq_ofNat_of_zero_le (low n there)
      exact .poll n
    · exact .level word

/-- The settings that such entries make. -/
theorem Makes.eq_of_gives {made : Settings} (makes : Makes entries {} made)
    (gives : Gives poll level entries) (low : ∀ n ∈ poll, 0 ≤ n) :
    made = { pollMillis := (poll.map Int.toNat).getD 100, logLevel := level } := by
  obtain ⟨pollMillis, logLevel⟩ := made
  have keys (key : String) (mem : key ∈ entries.map Entry.key) :
      poll ≠ none ∧ key = pollKey ∨ level ≠ none ∧ key = levelKey := by
    obtain ⟨entry, listed, rfl⟩ := List.mem_map.mp mem
    rcases gives.mem_iff.mp listed with ⟨n, there, rfl⟩ | ⟨word, there, rfl⟩
    · exact Or.inl ⟨ne_of_eq_of_ne (Option.mem_def.mp there) (Option.some_ne_none n), rfl⟩
    · exact Or.inr ⟨ne_of_eq_of_ne (Option.mem_def.mp there) (Option.some_ne_none word), rfl⟩
  rw [Settings.mk.injEq]
  constructor
  · cases poll with
    | none =>
        refine makes.noPoll fun mem => ?_
        rcases keys pollKey mem with ⟨there, -⟩ | ⟨-, same⟩
        · exact there rfl
        · exact levelKey_ne_pollKey same.symm
    | some n =>
        obtain ⟨n, rfl⟩ := Int.eq_ofNat_of_zero_le (low n rfl)
        exact makes.poll n (gives.mem_iff.mpr (Or.inl ⟨n, rfl, rfl⟩))
  · cases level with
    | none =>
        refine makes.noLevel fun mem => ?_
        rcases keys levelKey mem with ⟨-, same⟩ | ⟨there, -⟩
        · exact levelKey_ne_pollKey same
        · exact there rfl
    | some word => exact makes.level word (gives.mem_iff.mpr (Or.inr ⟨word, rfl, rfl⟩))

/-- What a written document is decoded as. -/
theorem ofDocument_written (written : Written entries text) :
    ofDocument (String.ofList text) =
      if ∀ entry ∈ entries, entry.datum.InRange then ofEntries entries
      else .error .malformed := by
  rw [ofDocument, entries?_written written]
  by_cases all : ∀ entry ∈ entries, entry.datum.InRange
  · rw [if_pos all, if_pos all]
  · rw [if_neg all, if_neg all]

theorem ofDocument_of_positive (gives : Gives poll level entries) (written : Written entries text)
    (range : ∀ n ∈ poll, 1 ≤ n ∧ n ≤ 2 ^ 63 - 1) :
    ofDocument (String.ofList text) =
      .ok { pollMillis := (poll.map Int.toNat).getD 100, logLevel := level } := by
  have low : ∀ n ∈ poll, 0 ≤ n := fun n mem => by have := range n mem; omega
  have inRange : ∀ entry ∈ entries, entry.datum.InRange := by
    refine gives.inRange_iff.mpr fun n mem => (inRange_iff n).mpr ?_
    have := range n mem
    omega
  obtain ⟨made, makes, reads⟩ := ofEntries_of_wellFormed (gives.wellFormed_iff.mpr low)
  have positive : made.pollMillis ≠ 0 := by
    rw [makes.eq_of_gives gives low]
    cases poll with
    | none => simp
    | some n =>
        have := range n rfl
        simp
        omega
  rw [ofDocument_written written, if_pos inRange, reads, if_neg positive,
    makes.eq_of_gives gives low]

theorem ofDocument_of_zero (gives : Gives (some 0) level entries) (written : Written entries text) :
    ofDocument (String.ofList text) = .error .zeroInterval := by
  have inRange : ∀ entry ∈ entries, entry.datum.InRange :=
    gives.inRange_iff.mpr fun n mem => by cases mem; decide
  rw [ofDocument_written written, if_pos inRange, ofEntries_eq_zeroInterval_iff]
  exact ⟨gives.wellFormed_iff.mpr fun n mem => by cases mem; decide,
    gives.mem_iff.mpr (Or.inl ⟨0, rfl, rfl⟩)⟩

theorem ofDocument_of_outside (gives : Gives poll level entries) (written : Written entries text)
    {n : Int} (mem : n ∈ poll) (outside : n < 0 ∨ 2 ^ 63 - 1 < n) :
    ofDocument (String.ofList text) = .error .malformed := by
  rw [ofDocument_written written]
  by_cases all : ∀ entry ∈ entries, entry.datum.InRange
  · rw [if_pos all]
    have range := (inRange_iff n).mp (gives.inRange_iff.mp all n mem)
    refine ofEntries_of_not_wellFormed fun wellFormed => ?_
    have low := gives.wellFormed_iff.mp wellFormed n mem
    omega
  · rw [if_neg all]

end Gives

/-! ## Keys that have no place -/

/-- A line starts with a key that has no place: it is neither of the two, or stands on an
earlier line, or goes on behind a dot. -/
theorem ofDocument_of_key {entries : List Entry} {lines key behind : List Char} {name : String}
    (written : LinesWritten entries lines) (writesKey : KeyWritten name.toList key)
    (stops : StopsKey behind)
    (misplaced : (name ≠ pollKey ∧ name ≠ levelKey) ∨ name ∈ entries.map Entry.key ∨
      (dropBlanks behind).head? = some '.') :
    ofDocument (String.ofList (lines ++ (key ++ behind))) = .error .malformed := by
  unfold ofDocument
  split
  · rfl
  · rename_i all reads
    obtain ⟨⟨datum, more, rfl⟩, sign⟩ := entries?_key written writesKey stops reads
    refine ofEntries_of_not_wellFormed fun wellFormed => ?_
    rcases misplaced with ⟨noPoll, noLevel⟩ | repeated | dotted
    · generalize same : Entry.mk name datum = entry at wellFormed
      cases wellFormed.fits entry (by simp) with
      | poll n => cases same; exact noPoll rfl
      | level word => cases same; exact noLevel rfl
    · have distinct := wellFormed.distinct
      rw [List.map_append, List.map_cons, List.nodup_append] at distinct
      exact distinct.2.2 name repeated name (by simp) rfl
    · rw [sign] at dotted
      cases dotted

/-! ## Every document -/

theorem pollMillis_of_ofDocument {document : String} {settings : Settings}
    (reads : ofDocument document = .ok settings) :
    1 ≤ settings.pollMillis ∧ settings.pollMillis ≤ 2 ^ 63 - 1 := by
  unfold ofDocument at reads
  split at reads
  · cases reads
  · rename_i entries entered
    obtain ⟨wellFormed, makes, positive⟩ := ofEntries_eq_ok reads
    refine ⟨Nat.one_le_iff_ne_zero.mpr positive, ?_⟩
    by_cases there : pollKey ∈ entries.map Entry.key
    · obtain ⟨entry, mem, key⟩ := List.mem_map.mp there
      have inRange := inRange_of_entries? entered entry mem
      cases wellFormed.fits entry mem with
      | poll n =>
          rw [makes.poll n mem]
          have := (inRange_iff n).mp inRange
          omega
      | level word => exact absurd key levelKey_ne_pollKey
    · rw [makes.noPoll there]
      decide

/-- The law of decoding.

* A document that gives an interval from 1 to `2 ^ 63 - 1`, or none, and a word for the
  log, or none, is decoded as these, with the default for what is not given.  An interval
  of zero has its own error, and any other is malformed.
* A document is malformed when a line starts with a key that is neither of the two, or
  that stands on an earlier line, or that goes on behind a dot.
* The interval that comes out of a document is from 1 to `2 ^ 63 - 1`.

Every list of entries is given by some document. -/
theorem ofDocument_law :
    (∀ entries, ∃ text, Written entries text) ∧
      (∀ poll level entries text, Gives poll level entries → Written entries text →
        let read := ofDocument (String.ofList text)
        ((∀ n ∈ poll, 1 ≤ n ∧ n ≤ 2 ^ 63 - 1) →
            read = .ok { pollMillis := (poll.map Int.toNat).getD 100, logLevel := level }) ∧
          (poll = some 0 → read = .error .zeroInterval) ∧
          ∀ n ∈ poll, n < 0 ∨ 2 ^ 63 - 1 < n → read = .error .malformed) ∧
      (∀ entries lines (name : String) key behind, LinesWritten entries lines →
        KeyWritten name.toList key → StopsKey behind →
        ((name ≠ "poll_interval_ms" ∧ name ≠ "log_level") ∨ name ∈ entries.map Entry.key ∨
          (dropBlanks behind).head? = some '.') →
        ofDocument (String.ofList (lines ++ (key ++ behind))) = .error .malformed) ∧
      ∀ document settings, ofDocument document = .ok settings →
        1 ≤ settings.pollMillis ∧ settings.pollMillis ≤ 2 ^ 63 - 1 := by
  refine ⟨exists_written, ?_, ?_, fun _ _ => pollMillis_of_ofDocument⟩
  · intro poll level entries text gives written read
    refine ⟨ofDocument_of_positive gives written, ?_, ?_⟩
    · rintro rfl
      exact ofDocument_of_zero gives written
    · intro n mem
      exact ofDocument_of_outside gives written mem
  · intro entries lines name key behind written writesKey stops
    exact ofDocument_of_key written writesKey stops

/-- The greatest interval behind a word with an escaped quote, an interval of zero, and
one with the same key again. -/
theorem ofDocument_law_greatest :
    ofDocument "log_level = \"a\\u0022\"\npoll_interval_ms = 9223372036854775807" =
        .ok { pollMillis := 9223372036854775807, logLevel := some "a\"" } ∧
      ofDocument "poll_interval_ms = 0\n" = .error .zeroInterval ∧
      ofDocument "poll_interval_ms = 0\npoll_interval_ms = 1" = .error .malformed := by
  have equals : EqualsWritten [' ', '=', ' '] :=
    show EqualsWritten ([' '] ++ '=' :: [' ']) from .intro (List.all_eq_true.mp (by decide))
  have feed : ['\n'] ∈ lineEnds := by decide
  have pollWritten : KeyWritten pollKey.toList pollKey.toList :=
    .bare (by decide) (List.all_eq_true.mp (by decide))
  have levelWritten : KeyWritten levelKey.toList levelKey.toList :=
    .bare (by decide) (List.all_eq_true.mp (by decide))
  have quote : Spelled '"' ['\\', 'u', '0', '0', '2', '2'] :=
    .point (by decide : ('u', 4) ∈ pointEscapes) rfl (by decide)
  have word : SpelledText "a\"".toList ['a', '\\', 'u', '0', '0', '2', '2'] := by
    rw [show "a\"".toList = ['a', '"'] by decide]
    exact .cons (.plain (by decide)) (.cons quote .nil)
  have interval (n : Int) : EntryWritten ⟨pollKey, .integer n⟩ _ :=
    .intro pollWritten equals (.integer n)
  have level : EntryWritten ⟨levelKey, .text "a\""⟩ _ := .intro levelWritten equals (.text word)
  have zero : LinesWritten [⟨pollKey, .integer 0⟩] _ := .cons (interval 0) feed .nil
  obtain ⟨-, decodes, misplaced, -⟩ := ofDocument_law
  refine ⟨?_, ?_, ?_⟩
  · convert (decodes (some 9223372036854775807) (some "a\"") _ _ (.inr rfl)
      (.unended (.cons level feed .nil) (interval _))).1 (by decide) using 2
    · decide
    · rfl
  · convert (decodes (some 0) none _ _ (.inl rfl) (.ended zero)).2.1 rfl using 2
    decide
  · have stops : StopsKey [' ', '=', ' ', '1'] := fun c mem => by cases mem; decide
    convert misplaced _ _ pollKey _ _ zero pollWritten stops (.inr (.inl (by decide))) using 2
    decide

end CheckHarness.Settings
