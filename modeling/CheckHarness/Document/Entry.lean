import CheckHarness.Document.Integer

/-!
# Documents

A document is a list of lines.  A line is empty but for blanks and a comment, or
it is an *entry*: a key, an equals sign, a value, and then only blanks and a
comment.  A key is a bare word of letters, digits, hyphens and underscores, or a
quoted text of one line.  A value is an integer or a text.  All else that a richer
notation knows, such as tables, lists and dates, is malformed here.

`entries?` reads a document.
-/

namespace CheckHarness.Document

/-- The value of an entry. -/
inductive Datum where
  | integer (n : Int)
  | text (s : String)
deriving DecidableEq, Repr

/-- A key with its value. -/
structure Entry where
  key : String
  datum : Datum
deriving DecidableEq, Repr

/-- The characters of a bare key. -/
def isBareKeyChar (c : Char) : Bool := c.isAlphanum || c = '_' || c = '-'

/-- A key, with what follows. -/
def key? : List Char → Option (List Char × List Char)
  | '"' :: rest => basic rest
  | '\x27' :: rest => literal rest
  | text =>
    let word := text.takeWhile isBareKeyChar
    if word = [] then none else some (word, text.dropWhile isBareKeyChar)

/-- A value, with what follows. -/
def datum? (text : List Char) : Option (Datum × List Char) :=
  if text.head? = some '"' ∨ text.head? = some singleQuote then
    (quoted? text).map fun (s, rest) => (.text (String.ofList s), rest)
  else (integer? text).map fun (n, rest) => (.integer n, rest)

/-- An entry and its line end, with the lines that follow. -/
def entry? (text : List Char) : Option (Entry × List Char) := do
  let (key, behindKey) ← key? text
  match dropBlanks behindKey with
  | '=' :: rest =>
    let (datum, behindDatum) ← datum? (dropBlanks rest)
    let next ← finishLine behindDatum
    return (⟨String.ofList key, datum⟩, next)
  | _ => none

/-- The entries of a document of at most `fuel` lines. -/
def entriesWithin? : (fuel : Nat) → List Char → Option (List Entry)
  | 0, text => if text = [] then some [] else none
  | fuel + 1, text =>
    if text = [] then some []
    else
      match finishLine text with
      | some next => entriesWithin? fuel next
      | none => do
        let (entry, next) ← entry? (dropBlanks text)
        return entry :: (← entriesWithin? fuel next)

/-- A document behind the mark that may tell its encoding. -/
def dropMark : List Char → List Char
  | '\ufeff' :: rest => rest
  | text => text

/-- The entries of a document, unless it is malformed.  Each line holds at least
its line end, so the length of the document bounds the number of lines. -/
def entries? (document : String) : Option (List Entry) :=
  let text := dropMark document.toList
  entriesWithin? (text.length + 1) text

end CheckHarness.Document
