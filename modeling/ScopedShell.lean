import ScopedShell.Command.Result
import ScopedShell.Command.Run
import ScopedShell.Command.Words
import ScopedShell.Data
import ScopedShell.Decimal.Nearest
import ScopedShell.Decimal.Ratio
import ScopedShell.Decimal.Shortest
import ScopedShell.Directory
import ScopedShell.Document
import ScopedShell.Document.Node
import ScopedShell.Document.Quoted
import ScopedShell.Document.Scalar
import ScopedShell.Document.Token
import ScopedShell.Document.Tokenized
import ScopedShell.Document.Unquoted
import ScopedShell.Environment
import ScopedShell.Fault
import ScopedShell.FileSystem
import ScopedShell.FileSystem.Access
import ScopedShell.FileSystem.Declaration
import ScopedShell.FileSystem.Refusal
import ScopedShell.FileSystem.Resolve
import ScopedShell.FileSystem.Walk
import ScopedShell.Glob.Expansion
import ScopedShell.Glob.Pattern
import ScopedShell.Glob.Segment
import ScopedShell.Home
import ScopedShell.Log.Format
import ScopedShell.Log.Logging
import ScopedShell.Log.Record
import ScopedShell.Moment
import ScopedShell.Number
import ScopedShell.Path
import ScopedShell.Path.Argument
import ScopedShell.Path.Relative
import ScopedShell.Proofs.Document.Entries
import ScopedShell.Proofs.FileSystem.Canonical
import ScopedShell.Proofs.FileSystem.Counting
import ScopedShell.Proofs.FileSystem.Ensuring
import ScopedShell.Proofs.FileSystem.Following
import ScopedShell.Proofs.FileSystem.Growth
import ScopedShell.Proofs.FileSystem.Listing
import ScopedShell.Proofs.FileSystem.Locating
import ScopedShell.Proofs.FileSystem.Making
import ScopedShell.Proofs.FileSystem.Plain
import ScopedShell.Proofs.Glob.Braces
import ScopedShell.Proofs.Glob.Candidates
import ScopedShell.Proofs.Glob.Compilation
import ScopedShell.Proofs.Glob.Descendants
import ScopedShell.Proofs.Glob.Distinct
import ScopedShell.Proofs.Glob.Existence
import ScopedShell.Proofs.Glob.Expression
import ScopedShell.Proofs.Glob.Failure
import ScopedShell.Proofs.Glob.Growth
import ScopedShell.Proofs.Glob.Hidden
import ScopedShell.Proofs.Glob.Language
import ScopedShell.Proofs.Glob.MissingScope
import ScopedShell.Proofs.Glob.Roots
import ScopedShell.Proofs.Glob.Routes
import ScopedShell.Proofs.Glob.SecondDescent
import ScopedShell.Proofs.Glob.Separators
import ScopedShell.Proofs.Glob.Visits
import ScopedShell.Proofs.Outcome
import ScopedShell.Proofs.Path.Ascent
import ScopedShell.Proofs.Path.Descent
import ScopedShell.Proofs.Path.Extension
import ScopedShell.Proofs.Path.Joining
import ScopedShell.Proofs.Path.Relative
import ScopedShell.Proofs.Regex.Meaning
import ScopedShell.Proofs.Session.CommandLines
import ScopedShell.Proofs.Session.Commands
import ScopedShell.Proofs.Session.Configuration
import ScopedShell.Proofs.Session.DryRuns
import ScopedShell.Proofs.Session.Growth
import ScopedShell.Proofs.Session.KeptSettings
import ScopedShell.Proofs.Session.Nesting
import ScopedShell.Proofs.Session.Output
import ScopedShell.Proofs.Session.Parents
import ScopedShell.Proofs.Session.Records
import ScopedShell.Proofs.Session.Scopes
import ScopedShell.Proofs.Settings.Location
import ScopedShell.Proofs.Settings.Precedence
import ScopedShell.Proofs.Settings.Validation
import ScopedShell.Proofs.Text.Splitting
import ScopedShell.Regex
import ScopedShell.Regex.Reading
import ScopedShell.Session
import ScopedShell.Session.Operation
import ScopedShell.Settings.Basic
import ScopedShell.Settings.Problem
import ScopedShell.Settings.Source
import ScopedShell.Text
import ScopedShell.Text.Blank
import ScopedShell.Text.Printable
import ScopedShell.Text.Quoted
import ScopedShell.Text.Uppercase
import ScopedShell.Text.Word
import ScopedShell.Traced
