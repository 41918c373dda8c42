/-!
# Blanks and line ends

The characters between the tokens of a document.  A line ends with a line feed,
which a carriage return may precede.  A carriage return on its own has no place.
-/

namespace CheckHarness.Document

/-- Spaces and tabs. -/
def isBlank (c : Char) : Bool := c = ' ' || c = '\t'

/-- The characters that comments and strings may hold as they are: the tab, and
everything from the space on but the delete character. -/
def isAllowed (c : Char) : Bool := c = '\t' || 32 ≤ c.toNat && c.toNat ≠ 127

/-- The text behind its leading blanks. -/
def dropBlanks (text : List Char) : List Char := text.dropWhile isBlank

/-- The text behind a line end, if it starts with one. -/
def lineEnd? : List Char → Option (List Char)
  | '\n' :: rest => some rest
  | '\r' :: '\n' :: rest => some rest
  | _ => none

/-- The text behind its leading blanks and line ends. -/
def dropGap : List Char → List Char
  | ' ' :: rest => dropGap rest
  | '\t' :: rest => dropGap rest
  | '\n' :: rest => dropGap rest
  | '\r' :: '\n' :: rest => dropGap rest
  | text => text

/-- The text behind a comment, if it starts with one. -/
def dropComment : List Char → List Char
  | '#' :: rest => rest.dropWhile isAllowed
  | text => text

/-- The next line, if nothing but blanks and a comment is left of this one. -/
def finishLine (text : List Char) : Option (List Char) :=
  match dropComment (dropBlanks text) with
  | [] => some []
  | rest => lineEnd? rest

theorem length_dropBlanks_le (text : List Char) : (dropBlanks text).length ≤ text.length :=
  (List.dropWhile_sublist _).length_le

theorem length_dropGap_le (text : List Char) : (dropGap text).length ≤ text.length := by
  fun_induction dropGap text <;> simp_all <;> omega

theorem length_lineEnd?_lt {text rest : List Char} (h : lineEnd? text = some rest) :
    rest.length < text.length := by
  unfold lineEnd? at h
  split at h
  · cases h
    exact Nat.lt_succ_self _
  · cases h
    exact Nat.lt_succ_of_lt (Nat.lt_succ_self _)
  · cases h

end CheckHarness.Document
