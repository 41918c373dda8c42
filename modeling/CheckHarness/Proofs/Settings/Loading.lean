import CheckHarness.Proofs.Settings.Schema

/-!
# Settings files that do not load

Settings do not load from a path that leads nowhere or to a directory, from a file that is
no text, and from a document that is malformed or sets an interval of zero.  Each of these
has an error of its own, and `Unloadable` says which.  `load_eq_error_iff` is the law.
-/

namespace CheckHarness.Settings

open Document (Entry)

/-! ## Texts and their bytes -/

/-- The bytes that a text is kept as. -/
def bytesOf (text : String) : List UInt8 := text.toUTF8.data.toList

theorem fromUTF8?_bytesOf (text : String) :
    String.fromUTF8? ⟨(bytesOf text).toArray⟩ = some text := by
  simp only [String.fromUTF8?, bytesOf, Array.toArray_toList, String.toUTF8_eq_toByteArray,
    dif_pos text.isValidUTF8]
  rfl

/-- A text is read from its own bytes and no others. -/
theorem fromUTF8?_eq_some_iff {bytes : List UInt8} {text : String} :
    String.fromUTF8? ⟨bytes.toArray⟩ = some text ↔ bytesOf text = bytes := by
  constructor
  · intro reads
    unfold String.fromUTF8? at reads
    split at reads
    · cases reads
      rfl
    · cases reads
  · rintro rfl
    exact fromUTF8?_bytesOf text

theorem fromUTF8?_eq_none_iff {bytes : List UInt8} :
    String.fromUTF8? ⟨bytes.toArray⟩ = none ↔ ∀ text, bytesOf text ≠ bytes := by
  rw [Option.eq_none_iff_forall_ne_some]
  exact forall_congr' fun text => not_congr fromUTF8?_eq_some_iff

/-! ## Why settings do not load -/

/-- Settings cannot be loaded from what a path leads to, for a cause. -/
inductive Unloadable (path : String) : Lookup → SettingsError → Prop where
  | missing : Unloadable path .missing (.notFound path)
  | directory : Unloadable path .directory .isDirectory
  | notText {bytes : List UInt8} (strange : ∀ text, bytesOf text ≠ bytes) :
      Unloadable path (.file bytes) .notText
  | malformed {document : String}
      (broken : ∀ entries, Document.entries? document = some entries → ¬WellFormed entries) :
      Unloadable path (.file (bytesOf document)) .malformed
  | zeroInterval {document : String} {entries : List Entry}
      (reads : Document.entries? document = some entries) (wellFormed : WellFormed entries)
      (zero : ⟨pollKey, .integer 0⟩ ∈ entries) :
      Unloadable path (.file (bytesOf document)) .zeroInterval

section Load

variable {document path : String} {lookup : String → Lookup} {cause : SettingsError}

theorem ofDocument_of_entries? {entries : List Entry}
    (reads : Document.entries? document = some entries) :
    ofDocument document = ofEntries entries := by
  simp only [ofDocument, reads]

theorem load_of_file (found : lookup path = .file (bytesOf document)) :
    load lookup path = ofDocument document := by
  simp only [load, found, fromUTF8?_bytesOf]

theorem ofDocument_eq_malformed_iff :
    ofDocument document = .error .malformed ↔
      ∀ entries, Document.entries? document = some entries → ¬WellFormed entries := by
  cases reads : Document.entries? document with
  | none => simp [ofDocument, reads]
  | some entries => simp [ofDocument_of_entries? reads, ofEntries_eq_malformed_iff]

/-- A document that does not make settings is malformed or sets an interval of zero. -/
theorem unloadable_of_ofDocument (fails : ofDocument document = .error cause) :
    Unloadable path (.file (bytesOf document)) cause := by
  by_cases broken : ofDocument document = .error .malformed
  · rw [broken] at fails
    cases fails
    exact .malformed (ofDocument_eq_malformed_iff.mp broken)
  · obtain ⟨entries, reads, wellFormed⟩ :
        ∃ entries, Document.entries? document = some entries ∧ WellFormed entries := by
      simpa only [ofDocument_eq_malformed_iff, not_forall, not_not, exists_prop] using broken
    obtain ⟨made, -, makes⟩ := ofEntries_of_wellFormed wellFormed
    rw [ofDocument_of_entries? reads, makes] at fails
    split at fails
    · rename_i zero
      cases fails
      rw [if_pos zero, ofEntries_eq_zeroInterval_iff] at makes
      exact .zeroInterval reads wellFormed makes.2
    · cases fails

theorem load_of_unloadable (unloadable : Unloadable path (lookup path) cause) :
    load lookup path = .error cause := by
  generalize found : lookup path = node at unloadable
  cases unloadable with
  | missing => simp only [load, found]
  | directory => simp only [load, found]
  | notText strange => simp only [load, found, fromUTF8?_eq_none_iff.mpr strange]
  | malformed broken => rw [load_of_file found, ofDocument_eq_malformed_iff.mpr broken]
  | zeroInterval reads wellFormed zero =>
      rw [load_of_file found, ofDocument_of_entries? reads]
      exact ofEntries_eq_zeroInterval_iff.mpr ⟨wellFormed, zero⟩

/-- The law of loading.  Settings fail to load for the cause that what is found gives. -/
theorem load_eq_error_iff :
    load lookup path = .error cause ↔ Unloadable path (lookup path) cause := by
  refine ⟨fun fails => ?_, load_of_unloadable⟩
  unfold load at fails
  split at fails
  · rename_i found
    cases fails
    exact found ▸ .missing
  · rename_i found
    cases fails
    exact found ▸ .directory
  · rename_i bytes found
    split at fails
    · rename_i strange
      cases fails
      exact found ▸ .notText (fromUTF8?_eq_none_iff.mp strange)
    · rename_i document reads
      obtain rfl := fromUTF8?_eq_some_iff.mp reads
      exact found ▸ unloadable_of_ofDocument fails

end Load

end CheckHarness.Settings
