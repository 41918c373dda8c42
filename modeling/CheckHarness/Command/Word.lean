/-!
# Words of a command line

A word that starts with two hyphens is a long option, with a value behind its
first equals sign if there is one.  A word that starts with one hyphen is a row of
short options.  Two hyphens alone end the options.  Any other word, one hyphen
alone included, is a plain one.
-/

namespace CheckHarness.Command

/-- The forms of a word. -/
inductive Word where
  /-- Ends the options. -/
  | terminator
  | long (name : String) (value : Option String)
  | short (letters : List Char)
  | plain
deriving DecidableEq, Repr

/-- A long option, as its name and the value behind the first equals sign. -/
def splitValue : List Char → List Char × Option (List Char)
  | [] => ([], none)
  | '=' :: rest => ([], some rest)
  | c :: rest =>
    let (name, value) := splitValue rest
    (c :: name, value)

/-- The form of a word. -/
def Word.ofChars : List Char → Word
  | ['-', '-'] => .terminator
  | '-' :: '-' :: rest =>
    let (name, value) := splitValue rest
    .long (String.ofList name) (value.map String.ofList)
  | ['-'] => .plain
  | '-' :: letters => .short letters
  | _ => .plain

/-- The form of a word. -/
def Word.ofString (word : String) : Word := .ofChars word.toList

end CheckHarness.Command
