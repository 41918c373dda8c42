import CheckHarness.Log.Directive
import CheckHarness.Pattern

/-!
# Filters

A filter says which lines of the log are let through.  It has directives, and maybe a
pattern that has to occur in the message.  A filter without directives lets the
gravest lines through.

A filter is written as directives between commas, with the pattern behind a slash.
What cannot be read is left out, with a warning.  A second slash spoils the whole.
-/

namespace CheckHarness.Log

/-! ## Warnings -/

/-- What is left out of a filter. -/
inductive Warning where
  /-- A text that is no level or directive. -/
  | directive (text : String)
  /-- A text with too many slashes. -/
  | slashes (text : String)
  /-- A text that is no pattern. -/
  | pattern (text : String) (defect : Pattern.Defect)
deriving DecidableEq, Repr

/-- The lines a warning is shown as. -/
def Warning.lines : Warning → List String
  | .directive text => ("warning: invalid logging spec '" ++ text ++ "', ignoring it").splitOn "\n"
  | .slashes text =>
    ("warning: invalid logging spec '" ++ text ++
      "', ignoring it (too many '/'s)").splitOn "\n"
  | .pattern text defect =>
    match defect.lines text with
    | [] => []
    | line :: lines => ("warning: invalid regex filter - " ++ line) :: lines

/-! ## Filters -/

/-- Which lines of the log are let through. -/
structure Filter where
  directives : List Directive := []
  pattern : Option Pattern := none

namespace Filter

/-- The threshold for a part of the program. -/
def threshold (filter : Filter) (source : Source) : Threshold :=
  if filter.directives = [] then some .error
  else
    match Directive.deciding? filter.directives source with
    | some directive => directive.threshold
    | none => none

/-- Whether a line is let through. -/
def admits (filter : Filter) (line : Line) : Bool :=
  (filter.threshold line.source).admits line.level &&
    filter.pattern.all fun pattern => pattern.occursIn line.message.toList

/-- The lines that are let through. -/
def select (filter : Filter) (lines : List Line) : List Line := lines.filter filter.admits

/-! ## Reading -/

/-- A filter, with what was left out of it. -/
structure Reading where
  filter : Filter := {}
  warnings : List Warning := []

/-- The reading with one directive more. -/
def Reading.withDirective (r : Reading) (part : List Char) : Reading :=
  match Directive.ofChars part with
  | .ok directive =>
    { r with filter.directives := Directive.insert r.filter.directives directive }
  | .error text => { r with warnings := r.warnings ++ [.directive text] }

/-- The reading with a pattern. -/
def Reading.withPattern (r : Reading) (text : String) : Reading :=
  match Pattern.ofText text with
  | .ok pattern => { r with filter.pattern := some pattern }
  | .error defect => { r with warnings := r.warnings ++ [.pattern text defect] }

/-- The directives of a text. -/
def ofDirectives (text : List Char) : Reading :=
  (Directive.parts text).foldl Reading.withDirective {}

/-- The filter that a text stands for. -/
def ofText (text : String) : Reading :=
  match pieces '/' text.toList with
  | [directives] => ofDirectives directives
  | [directives, pattern] => (ofDirectives directives).withPattern (String.ofList pattern)
  | _ => { warnings := [.slashes text] }

end Filter

end CheckHarness.Log
