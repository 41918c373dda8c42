import CheckHarness.Binary.Format
import CheckHarness.Binary.Notation
import CheckHarness.Binary.Numeral
import CheckHarness.Binary.Rounding
import CheckHarness.Binary.Shortest
import CheckHarness.Checkable
import CheckHarness.Command.Invocation
import CheckHarness.Command.Options
import CheckHarness.Command.Reading
import CheckHarness.Command.Word
import CheckHarness.Command.Writing
import CheckHarness.Document.Blank
import CheckHarness.Document.Entry
import CheckHarness.Document.Integer
import CheckHarness.Document.Text
import CheckHarness.FileTree
import CheckHarness.Harness.Action
import CheckHarness.Harness.Check
import CheckHarness.Harness.Run
import CheckHarness.Harness.Visual
import CheckHarness.Interrupt
import CheckHarness.Interrupt.Threads
import CheckHarness.Log
import CheckHarness.Log.Directive
import CheckHarness.Log.Filter
import CheckHarness.Main
import CheckHarness.Operands
import CheckHarness.Outcome
import CheckHarness.Pattern
import CheckHarness.Pattern.Basic
import CheckHarness.Pattern.Bracket
import CheckHarness.Pattern.CharSet
import CheckHarness.Pattern.Cursor
import CheckHarness.Pattern.Edge
import CheckHarness.Pattern.Encoding
import CheckHarness.Pattern.Escape
import CheckHarness.Pattern.Fault
import CheckHarness.Pattern.Meaning
import CheckHarness.Pattern.Modes
import CheckHarness.Pattern.Reading
import CheckHarness.Pattern.Room
import CheckHarness.Pattern.Span
import CheckHarness.Pattern.Tree
import CheckHarness.Program
import CheckHarness.Program.Failure
import CheckHarness.Proofs.Binary.Fields
import CheckHarness.Proofs.Binary.Notation
import CheckHarness.Proofs.Binary.Numeral
import CheckHarness.Proofs.Binary.Rounding
import CheckHarness.Proofs.Binary.Shortest
import CheckHarness.Proofs.Command.Operands
import CheckHarness.Proofs.Command.RoundTrip
import CheckHarness.Proofs.Harness.Course
import CheckHarness.Proofs.Harness.Dynamic
import CheckHarness.Proofs.Harness.Emission
import CheckHarness.Proofs.Harness.Trace
import CheckHarness.Proofs.Harness.Transparency
import CheckHarness.Proofs.Harness.Waiting
import CheckHarness.Proofs.Interrupt.Wakeup
import CheckHarness.Proofs.Program.Comparison
import CheckHarness.Proofs.Testlet.Isolation
import CheckHarness.Proofs.Value.Agreement
import CheckHarness.Proofs.Value.Rendering
import CheckHarness.Proofs.Value.RoundTrip
import CheckHarness.Report
import CheckHarness.Screen
import CheckHarness.Selftest
import CheckHarness.Settings
import CheckHarness.SettingsFile
import CheckHarness.Testlet
import CheckHarness.Text.Extending
import CheckHarness.Text.Letter
import CheckHarness.Text.Pieces
import CheckHarness.Text.Quoted
import CheckHarness.Text.Radix
import CheckHarness.Text.Ranges
import CheckHarness.Text.Space
import CheckHarness.Text.Unprintable
import CheckHarness.Value
import CheckHarness.Proofs.Interrupt.Families
import CheckHarness.Document.Writing
import CheckHarness.Proofs.Document.RoundTrip
import CheckHarness.Proofs.Settings.Decoding
import CheckHarness.Proofs.Harness.Interval
import CheckHarness.Proofs.Log.Word
import CheckHarness.Proofs.Program.Logging
import CheckHarness.Proofs.Program.Precedence
import CheckHarness.Proofs.Binary.Spelling
import CheckHarness.Proofs.Binary.Nearest
import CheckHarness.Proofs.Binary.Worth
import CheckHarness.Proofs.Value.Reading
import CheckHarness.Proofs.Harness.Wrapping
import CheckHarness.Proofs.Program.Selftest
import CheckHarness.Proofs.Harness.Duality
import CheckHarness.Proofs.Harness.VisualNote
import CheckHarness.Proofs.Text.Quoted
import CheckHarness.Proofs.Program.Unreadable
import CheckHarness.Proofs.Binary.Monotone
import CheckHarness.Proofs.Binary.Fewest
import CheckHarness.Proofs.Value.Point
import CheckHarness.Proofs.Report.Accounting
