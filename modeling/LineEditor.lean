import LineEditor.Bounds
import LineEditor.Bounds.Line
import LineEditor.Bounds.Named
import LineEditor.Bounds.Separator
import LineEditor.Cli
import LineEditor.Cli.Arguments
import LineEditor.Command.Address
import LineEditor.Command.Line
import LineEditor.Command.Name
import LineEditor.Config
import LineEditor.Config.File
import LineEditor.Document
import LineEditor.Document.Lines
import LineEditor.Document.Range
import LineEditor.Edit
import LineEditor.Edit.Diff
import LineEditor.Error
import LineEditor.History
import LineEditor.Insertion
import LineEditor.Main
import LineEditor.Options
import LineEditor.Options.Name
import LineEditor.Pattern
import LineEditor.Pattern.CharSet
import LineEditor.Pattern.Expr
import LineEditor.Pattern.Machine
import LineEditor.Pattern.Program
import LineEditor.Pattern.Reader
import LineEditor.Proofs.Cli.Saving
import LineEditor.Proofs.Command.AddressList
import LineEditor.Proofs.Command.Locality
import LineEditor.Proofs.Command.Numbered
import LineEditor.Proofs.Command.Parameter
import LineEditor.Proofs.Command.Sections
import LineEditor.Proofs.Command.Segments
import LineEditor.Proofs.Command.Terms
import LineEditor.Proofs.Document.Chain
import LineEditor.Proofs.Document.Covering
import LineEditor.Proofs.Document.Edits
import LineEditor.Proofs.Document.Finding
import LineEditor.Proofs.Document.Focus
import LineEditor.Proofs.Document.Following
import LineEditor.Proofs.Document.InPlace
import LineEditor.Proofs.Document.Joining
import LineEditor.Proofs.Document.LineEdits
import LineEditor.Proofs.Document.Locating
import LineEditor.Proofs.Document.Marks
import LineEditor.Proofs.Document.Moving
import LineEditor.Proofs.Document.Numbers
import LineEditor.Proofs.Document.Overwriting
import LineEditor.Proofs.Document.Replacing
import LineEditor.Proofs.Document.Replay
import LineEditor.Proofs.Document.Runs
import LineEditor.Proofs.Document.Separating
import LineEditor.Proofs.Document.Shifting
import LineEditor.Proofs.Document.Substituting
import LineEditor.Proofs.Document.Telling
import LineEditor.Proofs.Document.Tracking
import LineEditor.Proofs.Document.Typing
import LineEditor.Proofs.Document.Writing
import LineEditor.Proofs.Edit.Leads
import LineEditor.Proofs.Edit.Least
import LineEditor.Proofs.Edit.Placing
import LineEditor.Proofs.Edit.Rebase
import LineEditor.Proofs.History.Chain
import LineEditor.Proofs.Pattern.Following
import LineEditor.Proofs.Pattern.Framing
import LineEditor.Proofs.Pattern.Looks
import LineEditor.Proofs.Pattern.Placing
import LineEditor.Proofs.Pattern.Preference
import LineEditor.Proofs.Options
import LineEditor.Proofs.Options.Tokens
import LineEditor.Proofs.Registers
import LineEditor.Proofs.Registers.Stores
import LineEditor.Proofs.Search.Finding
import LineEditor.Proofs.Search.Literal
import LineEditor.Proofs.Search.Order
import LineEditor.Proofs.Search.Replacing
import LineEditor.Proofs.Session.Absolute
import LineEditor.Proofs.Session.Addressed
import LineEditor.Proofs.Session.Commands
import LineEditor.Proofs.Session.Copying
import LineEditor.Proofs.Session.Covering
import LineEditor.Proofs.Session.Deleting
import LineEditor.Proofs.Session.Failing
import LineEditor.Proofs.Session.Files
import LineEditor.Proofs.Session.Globally
import LineEditor.Proofs.Session.Joining
import LineEditor.Proofs.Session.Keeps
import LineEditor.Proofs.Session.LineEdits
import LineEditor.Proofs.Session.Lines
import LineEditor.Proofs.Session.Marking
import LineEditor.Proofs.Session.Matching
import LineEditor.Proofs.Session.Moving
import LineEditor.Proofs.Session.Nesting
import LineEditor.Proofs.Session.Numbers
import LineEditor.Proofs.Session.Observers
import LineEditor.Proofs.Session.OneStep
import LineEditor.Proofs.Session.PuttingBack
import LineEditor.Proofs.Session.Reading
import LineEditor.Proofs.Session.Refusals
import LineEditor.Proofs.Session.Returning
import LineEditor.Proofs.Session.SaveStatus
import LineEditor.Proofs.Session.Scan
import LineEditor.Proofs.Session.Searching
import LineEditor.Proofs.Session.Settling
import LineEditor.Proofs.Session.Shifting
import LineEditor.Proofs.Session.Spans
import LineEditor.Proofs.Session.Sparing
import LineEditor.Proofs.Session.Substituting
import LineEditor.Proofs.Session.Tracks
import LineEditor.Proofs.Session.Transferring
import LineEditor.Proofs.Session.Turns
import LineEditor.Proofs.Session.UndoLaw
import LineEditor.Proofs.Session.Walking
import LineEditor.Proofs.Session.Writing
import LineEditor.Proofs.Surface.Calls
import LineEditor.Proofs.Surface.Cuts
import LineEditor.Proofs.Surface.Flat
import LineEditor.Proofs.Surface.Insertion
import LineEditor.Proofs.Surface.Leaves
import LineEditor.Proofs.Surface.Points
import LineEditor.Proofs.Surface.Removing
import LineEditor.Proofs.Surface.Rereading
import LineEditor.Proofs.Surface.Selecting
import LineEditor.Proofs.Surface.Starting
import LineEditor.Proofs.Surface.Touching
import LineEditor.Proofs.Surface.Undisturbed
import LineEditor.Proofs.Surface.Wrapping
import LineEditor.Proofs.Table
import LineEditor.Proofs.Text.Breaks
import LineEditor.Proofs.Text.Bytes
import LineEditor.Proofs.Text.Indent
import LineEditor.Proofs.Text.Lines
import LineEditor.Proofs.Text.Occurrences
import LineEditor.Proofs.Text.Words
import LineEditor.Ranges
import LineEditor.Rebase
import LineEditor.Registers
import LineEditor.Search.Find
import LineEditor.Search.Flags
import LineEditor.Search.Replace
import LineEditor.Search.Template
import LineEditor.Session
import LineEditor.Session.Edits
import LineEditor.Session.Execute
import LineEditor.Session.Files
import LineEditor.Session.Listing
import LineEditor.Session.Span
import LineEditor.Session.Substitute
import LineEditor.Storage
import LineEditor.Storage.Disk
import LineEditor.Surface
import LineEditor.Surface.Forest
import LineEditor.Surface.Viewport
import LineEditor.Table
import LineEditor.Text.Basic
import LineEditor.Text.Blank
import LineEditor.Text.Bytes
import LineEditor.Text.Case
import LineEditor.Text.Escaped
import LineEditor.Text.Indent
import LineEditor.Text.Lines
import LineEditor.Text.Numeral
import LineEditor.Text.Quoted
import LineEditor.Unicode.CaseTable
import LineEditor.Unicode.CategoryTable
import LineEditor.Unicode.CodeRanges
import LineEditor.Unicode.Kind
import LineEditor.Unicode.PropertyTable
import LineEditor.Unicode.ScriptTable
import LineEditor.Yaml.Node
import LineEditor.Yaml.Reader
import LineEditor.Yaml.Scalar
import LineEditor.Yaml.Writer
