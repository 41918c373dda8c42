import CheckHarness.Document.Entry
import CheckHarness.FileTree
import CheckHarness.Settings

/-!
# Settings files

Settings are written as a document with the keys `poll_interval_ms`, a positive
integer, and `log_level`, a text.  Each may be left out, none may be repeated, and
there is no other key.  A document that breaks these rules is malformed.  Only an
interval of zero has an error of its own, which shows when nothing else is wrong.

`Settings.ofDocument` reads a document, and `Settings.load` a file.
-/

namespace CheckHarness

/-- Why settings could not be loaded. -/
inductive SettingsError where
  /-- There is nothing at the path. -/
  | notFound (path : String)
  /-- There is a directory at the path. -/
  | isDirectory
  /-- The file is not text. -/
  | notText
  /-- The document breaks the rules. -/
  | malformed
  /-- The interval between polls is zero. -/
  | zeroInterval
deriving DecidableEq, Repr

/-- The messages of an error, the outermost first.  What exactly is malformed is not
told. -/
def SettingsError.messages : SettingsError → List String
  | .notFound path => ["Config file not found: " ++ path]
  | .isDirectory =>
    ["IO error: Is a directory (os error 21)", "Is a directory (os error 21)"]
  | .notText =>
    ["IO error: stream did not contain valid UTF-8", "stream did not contain valid UTF-8"]
  | .malformed => []
  | .zeroInterval => ["Invalid config: poll_interval_ms must be greater than zero"]

namespace Settings

open Document (Entry Datum)

/-- The key of the interval between polls. -/
def pollKey : String := "poll_interval_ms"

/-- The key of the threshold of the log. -/
def levelKey : String := "log_level"

/-- The settings with one entry applied, unless its key or datum has no place. -/
def withEntry (settings : Settings) (entry : Entry) : Option Settings :=
  match entry.datum with
  | .integer n =>
    if entry.key = pollKey ∧ 0 ≤ n then some { settings with pollMillis := n.toNat } else none
  | .text level =>
    if entry.key = levelKey then some { settings with logLevel := some level } else none

/-- Whether no key is repeated. -/
def keysDiffer (entries : List Entry) : Bool := decide (entries.map Entry.key).Nodup

/-- The settings that entries make. -/
def ofEntries (entries : List Entry) : Except SettingsError Settings :=
  if keysDiffer entries then
    match entries.foldlM withEntry {} with
    | none => .error .malformed
    | some settings => if settings.pollMillis = 0 then .error .zeroInterval else .ok settings
  else .error .malformed

/-- The settings in a document. -/
def ofDocument (document : String) : Except SettingsError Settings :=
  match Document.entries? document with
  | none => .error .malformed
  | some entries => ofEntries entries

/-- The settings in the file at a path, given what the path leads to. -/
def load (lookup : String → Lookup) (path : String) : Except SettingsError Settings :=
  match lookup path with
  | .missing => .error (.notFound path)
  | .directory => .error .isDirectory
  | .file bytes =>
    match String.fromUTF8? ⟨bytes.toArray⟩ with
    | none => .error .notText
    | some document => ofDocument document

end Settings

end CheckHarness
