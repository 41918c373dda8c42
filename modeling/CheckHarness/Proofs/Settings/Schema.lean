import CheckHarness.SettingsFile
import Mathlib.Data.List.Nodup

/-!
# Entries that make settings

Entries are *well formed* when no key is repeated and each has a place: an integer that is
not negative under `poll_interval_ms`, or a text under `log_level`.  Well-formed entries
make settings that say what the entries say and are the default elsewhere
(`foldlM_withEntry`).

`ofEntries_eq_malformed_iff` and `ofEntries_eq_zeroInterval_iff` say which entries are
refused, and `ofEntries_eq_ok` what the others make.
-/

namespace CheckHarness.Settings

open Document (Entry Datum)

/-! ## Well-formed entries -/

/-- The entry has a place in the settings. -/
inductive Fits : Entry → Prop where
  | poll (n : Nat) : Fits ⟨pollKey, .integer n⟩
  | level (word : String) : Fits ⟨levelKey, .text word⟩

/-- No key is repeated, and every entry has a place. -/
structure WellFormed (entries : List Entry) : Prop where
  distinct : (entries.map Entry.key).Nodup
  fits : ∀ entry ∈ entries, Fits entry

/-- What entries make of settings: what they say, and nothing else. -/
structure Makes (entries : List Entry) (start made : Settings) : Prop where
  poll : ∀ n : Nat, ⟨pollKey, .integer n⟩ ∈ entries → made.pollMillis = n
  noPoll : pollKey ∉ entries.map Entry.key → made.pollMillis = start.pollMillis
  level : ∀ word, ⟨levelKey, .text word⟩ ∈ entries → made.logLevel = some word
  noLevel : levelKey ∉ entries.map Entry.key → made.logLevel = start.logLevel

theorem levelKey_ne_pollKey : levelKey ≠ pollKey := by decide

theorem Fits.nonneg {entry : Entry} (fits : Fits entry) {n : Int}
    (integer : entry.datum = .integer n) : 0 ≤ n := by
  cases fits with
  | poll m =>
      cases integer
      exact Int.natCast_nonneg m
  | level word => cases integer

section Fold

variable {entry : Entry} {entries : List Entry} {start made : Settings}

theorem fits_of_withEntry (applies : start.withEntry entry = some made) : Fits entry := by
  obtain ⟨key, datum⟩ := entry
  cases datum with
  | integer n =>
      simp only [withEntry] at applies
      split at applies
      · rename_i place
        obtain ⟨rfl, low⟩ := place
        obtain ⟨n, rfl⟩ := Int.eq_ofNat_of_zero_le low
        exact .poll n
      · cases applies
  | text word =>
      simp only [withEntry] at applies
      split at applies
      · rename_i place
        obtain rfl := place
        exact .level word
      · cases applies

/-- Entries that are applied all have a place. -/
theorem fits_of_foldlM (applies : entries.foldlM withEntry start = some made) :
    ∀ entry ∈ entries, Fits entry := by
  induction entries generalizing start with
  | nil => simp
  | cons entry entries ih =>
      rw [List.foldlM_cons] at applies
      obtain ⟨next, first, rest⟩ := Option.bind_eq_some_iff.mp applies
      exact List.forall_mem_cons.mpr ⟨fits_of_withEntry first, ih rest⟩

/-- Well-formed entries are applied, and make what they say. -/
theorem foldlM_withEntry (wellFormed : WellFormed entries) (start : Settings) :
    ∃ made, entries.foldlM withEntry start = some made ∧ Makes entries start made := by
  obtain ⟨distinct, fits⟩ := wellFormed
  induction entries generalizing start with
  | nil => exact ⟨start, rfl, by simp, fun _ => rfl, by simp, fun _ => rfl⟩
  | cons entry entries ih =>
      obtain ⟨new, distinct⟩ := List.nodup_cons.mp distinct
      have rest (next : Settings) :=
        ih next distinct fun other mem => fits other (List.mem_cons_of_mem _ mem)
      cases fits entry List.mem_cons_self with
      | poll n =>
          obtain ⟨made, applies, makes⟩ := rest { start with pollMillis := n }
          refine ⟨made, ?_, ?_, ?_, ?_, ?_⟩
          · simpa [List.foldlM_cons, withEntry] using applies
          · intro m mem
            rcases List.mem_cons.mp mem with same | mem
            · cases same
              exact makes.noPoll new
            · exact makes.poll m mem
          · intro missing
            simp at missing
          · intro word mem
            exact makes.level word ((List.mem_cons.mp mem).resolve_left (by simp))
          · intro missing
            exact makes.noLevel fun mem => missing (List.mem_cons_of_mem _ mem)
      | level word =>
          obtain ⟨made, applies, makes⟩ := rest { start with logLevel := some word }
          refine ⟨made, ?_, ?_, ?_, ?_, ?_⟩
          · simpa [List.foldlM_cons, withEntry] using applies
          · intro n mem
            exact makes.poll n ((List.mem_cons.mp mem).resolve_left (by simp))
          · intro missing
            exact makes.noPoll fun mem => missing (List.mem_cons_of_mem _ mem)
          · intro other mem
            rcases List.mem_cons.mp mem with same | mem
            · cases same
              exact makes.noLevel new
            · exact makes.level other mem
          · intro missing
            simp at missing

end Fold

/-! ## What entries make -/

section Entries

variable {entries : List Entry} {settings : Settings}

theorem ofEntries_of_wellFormed (wellFormed : WellFormed entries) :
    ∃ made, Makes entries {} made ∧
      ofEntries entries = if made.pollMillis = 0 then .error .zeroInterval else .ok made := by
  obtain ⟨made, applies, makes⟩ := foldlM_withEntry wellFormed {}
  have differ : keysDiffer entries = true := decide_eq_true wellFormed.distinct
  exact ⟨made, makes, by simp only [ofEntries, differ, applies, if_true]⟩

theorem ofEntries_of_not_wellFormed (broken : ¬WellFormed entries) :
    ofEntries entries = .error .malformed := by
  unfold ofEntries
  split
  · rename_i differ
    split
    · rfl
    · rename_i made applies
      exact absurd ⟨of_decide_eq_true differ, fits_of_foldlM applies⟩ broken
  · rfl

/-- The interval is zero only when an entry says so. -/
theorem Makes.pollMillis_eq_zero_iff (makes : Makes entries {} settings)
    (wellFormed : WellFormed entries) :
    settings.pollMillis = 0 ↔ ⟨pollKey, .integer 0⟩ ∈ entries := by
  refine ⟨fun zero => ?_, makes.poll 0⟩
  by_cases there : pollKey ∈ entries.map Entry.key
  · obtain ⟨entry, mem, key⟩ := List.mem_map.mp there
    cases wellFormed.fits entry mem with
    | poll n =>
        obtain rfl : n = 0 := (makes.poll n mem).symm.trans zero
        exact mem
    | level word => exact absurd key levelKey_ne_pollKey
  · exact absurd ((makes.noPoll there).symm.trans zero) (by decide)

theorem ofEntries_eq_malformed_iff :
    ofEntries entries = .error .malformed ↔ ¬WellFormed entries := by
  refine ⟨fun malformed wellFormed => ?_, ofEntries_of_not_wellFormed⟩
  obtain ⟨made, -, reads⟩ := ofEntries_of_wellFormed wellFormed
  rw [malformed] at reads
  split at reads <;> cases reads

theorem ofEntries_eq_zeroInterval_iff :
    ofEntries entries = .error .zeroInterval ↔
      WellFormed entries ∧ ⟨pollKey, .integer 0⟩ ∈ entries := by
  by_cases wellFormed : WellFormed entries
  · obtain ⟨made, makes, reads⟩ := ofEntries_of_wellFormed wellFormed
    rw [reads, ← makes.pollMillis_eq_zero_iff wellFormed]
    by_cases zero : made.pollMillis = 0
    · simp [zero, wellFormed]
    · simp [zero]
  · simp [ofEntries_of_not_wellFormed wellFormed, wellFormed]

theorem ofEntries_eq_ok (reads : ofEntries entries = .ok settings) :
    WellFormed entries ∧ Makes entries {} settings ∧ settings.pollMillis ≠ 0 := by
  by_cases wellFormed : WellFormed entries
  · obtain ⟨made, makes, reads'⟩ := ofEntries_of_wellFormed wellFormed
    rw [reads] at reads'
    split at reads'
    · cases reads'
    · rename_i positive
      cases reads'
      exact ⟨wellFormed, makes, positive⟩
  · rw [ofEntries_of_not_wellFormed wellFormed] at reads
    cases reads

end Entries

end CheckHarness.Settings
