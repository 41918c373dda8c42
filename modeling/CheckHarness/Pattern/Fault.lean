import CheckHarness.Pattern.Span

/-!
# Faults of a pattern

Why a text is no pattern, and where.  A fault is shown under the text it is found
in, with its span underlined.  A second span may be underlined too, such as the
first use of a name that is used twice.  A text of several lines is shown with
numbered lines between two rules.  A span over several lines is not underlined but
described.
-/

namespace CheckHarness.Pattern

/-! ## What is wrong -/

/-- What is wrong with a pattern. -/
inductive FaultKind where
  | classEscapeInvalid
  | classRangeInvalid
  | classRangeLiteral
  | classUnclosed
  | decimalInvalid
  | escapeHexEmpty
  | escapeHexInvalid
  | escapeHexInvalidDigit
  | escapeUnexpectedEnd
  | escapeUnrecognized
  | flagDanglingNegation
  | flagDuplicate
  | flagRepeatedNegation
  | flagUnexpectedEnd
  | flagUnrecognized
  | groupNameDuplicate
  | groupNameEmpty
  | groupNameInvalid
  | groupNameUnexpectedEnd
  | groupUnclosed
  | groupUnopened
  | nestTooDeep (limit : Nat)
  | repetitionCountInvalid
  | repetitionCountMissing
  | repetitionCountUnclosed
  | repetitionMissing
  | wordEdgeUnclosed
  | wordEdgeUnrecognized
  | wordEdgeUnexpectedEnd
  | propertyNameInvalid
  | backreference
  | lookAround
  | unicodeNotAllowed
  | invalidUtf8
  | propertyNotFound
  | propertyValueNotFound
  | letterClassNotFound
  | anyCaseUnavailable
deriving DecidableEq, Repr

/-- What is said about it. -/
def FaultKind.message : FaultKind → String
  | .classEscapeInvalid => "invalid escape sequence found in character class"
  | .classRangeInvalid => "invalid character class range, the start must be <= the end"
  | .classRangeLiteral => "invalid range boundary, must be a literal"
  | .classUnclosed => "unclosed character class"
  | .decimalInvalid => "decimal literal invalid"
  | .escapeHexEmpty => "hexadecimal literal empty"
  | .escapeHexInvalid => "hexadecimal literal is not a Unicode scalar value"
  | .escapeHexInvalidDigit => "invalid hexadecimal digit"
  | .escapeUnexpectedEnd => "incomplete escape sequence, reached end of pattern prematurely"
  | .escapeUnrecognized => "unrecognized escape sequence"
  | .flagDanglingNegation => "dangling flag negation operator"
  | .flagDuplicate => "duplicate flag"
  | .flagRepeatedNegation => "flag negation operator repeated"
  | .flagUnexpectedEnd => "expected flag but got end of regex"
  | .flagUnrecognized => "unrecognized flag"
  | .groupNameDuplicate => "duplicate capture group name"
  | .groupNameEmpty => "empty capture group name"
  | .groupNameInvalid => "invalid capture group character"
  | .groupNameUnexpectedEnd => "unclosed capture group name"
  | .groupUnclosed => "unclosed group"
  | .groupUnopened => "unopened group"
  | .nestTooDeep limit =>
    "exceed the maximum number of nested parentheses/brackets (" ++ limit.repr ++ ")"
  | .repetitionCountInvalid =>
    "invalid repetition count range, the start must be <= the end"
  | .repetitionCountMissing => "repetition quantifier expects a valid decimal"
  | .repetitionCountUnclosed => "unclosed counted repetition"
  | .repetitionMissing => "repetition operator missing expression"
  | .wordEdgeUnclosed =>
    "special word boundary assertion is either unclosed or contains an invalid character"
  | .wordEdgeUnrecognized =>
    "unrecognized special word boundary assertion, valid choices are: " ++
      "start, end, start-half or end-half"
  | .wordEdgeUnexpectedEnd =>
    "found either the beginning of a special word boundary or a bounded repetition on a " ++
      "\\b with an opening brace, but no closing brace"
  | .propertyNameInvalid => "invalid Unicode character class"
  | .backreference => "backreferences are not supported"
  | .lookAround => "look-around, including look-ahead and look-behind, is not supported"
  | .unicodeNotAllowed => "Unicode not allowed here"
  | .invalidUtf8 => "pattern can match invalid UTF-8"
  | .propertyNotFound => "Unicode property not found"
  | .propertyValueNotFound => "Unicode property value not found"
  | .letterClassNotFound =>
    "Unicode-aware Perl class not found (make sure the unicode-perl feature is enabled)"
  | .anyCaseUnavailable =>
    "Unicode-aware case insensitivity matching is not available " ++
      "(make sure the unicode-case feature is enabled)"

/-- What is wrong with a pattern, and where. -/
structure Fault where
  kind : FaultKind
  span : Span
  /-- The other span that has to do with it. -/
  other : Option Span := none
deriving DecidableEq, Repr

namespace Fault

/-! ## Lines -/

/-- The lines of a text.  The end of the last line may be missing, and a carriage
return before the end of a line is no part of it. -/
def linesOf (text : String) : List String :=
  let lines := text.splitOn "\n"
  let whole := if lines.getLast? = some "" then lines.dropLast else lines
  let isEnded (i : Nat) : Bool := i + 1 < lines.length
  whole.zipIdx.map fun (line, i) =>
    if isEnded i ∧ line.endsWith "\r" then (line.dropEnd 1).toString else line

/-- A row of one character. -/
def row (n : Nat) (c : Char) : String := String.ofList (List.replicate n c)

/-- A text with blanks before it, up to a width. -/
def padded (width : Nat) (text : String) : String := row (width - text.length) ' ' ++ text

/-- The spans of a fault, in order. -/
def spans (fault : Fault) : List Span :=
  match fault.other with
  | none => [fault.span]
  | some other =>
    if other.isBefore fault.span then [other, fault.span] else [fault.span, other]

/-- The marks under a line that is shown behind a margin, from the spans on it. -/
def marks (margin : Nat) (spans : List Span) : String :=
  let mark (text : String) (span : Span) : String :=
    let written := text.length - margin
    text ++ row (span.start.column - 1 - written) ' ' ++
      row (max 1 (span.stop.column - span.start.column)) '^'
  spans.foldl mark (row margin ' ')

/-- The lines of a text, each with the marks of the spans on it. -/
def marked (fault : Fault) (text : String) : List String :=
  let count := (text.splitOn "\n").length
  let width := if count ≤ 1 then 0 else count.repr.length
  let margin := if width = 0 then 4 else width + 2
  (linesOf text).zipIdx.flatMap fun (line, i) =>
    let start := if width = 0 then row 4 ' ' else padded width (i + 1).repr ++ ": "
    let here := fault.spans.filter fun span => span.isOneLine && span.start.line = i + 1
    (start ++ line) :: (if here = [] then [] else [marks margin here])

/-- Where a span over several lines lies. -/
def extent (span : Span) : String :=
  "on line " ++ span.start.line.repr ++ " (column " ++ span.start.column.repr ++
    ") through line " ++ span.stop.line.repr ++ " (column " ++ (span.stop.column - 1).repr ++ ")"

/-- The lines a fault of a text is shown as. -/
def lines (fault : Fault) (text : String) : List String :=
  let message := "error: " ++ fault.kind.message
  if (text.splitOn "\n").length ≤ 1 then
    "regex parse error:" :: fault.marked text ++ [message]
  else
    let rule := row 79 '~'
    let wide := fault.spans.filter fun span => !span.isOneLine
    ["regex parse error:", rule] ++ fault.marked text ++ [rule] ++ wide.map extent ++ [message]

end Fault

end CheckHarness.Pattern
