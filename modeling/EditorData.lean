import EditorData.Catalogue.Bundled
import EditorData.Catalogue.ConfigFile
import EditorData.Catalogue.EditorProperties
import EditorData.Catalogue.Entry
import EditorData.Catalogue.Loading
import EditorData.Catalogue.Schema
import EditorData.Catalogue.Table
import EditorData.CommandLine.Arguments
import EditorData.CommandLine.Machine
import EditorData.CommandLine.Run
import EditorData.CommandLine.Word
import EditorData.Dictionary
import EditorData.Directive.Cursor
import EditorData.Directive.Lexer
import EditorData.Directive.Token
import EditorData.Download.Fetch
import EditorData.Download.Retrying
import EditorData.Generation.Failure
import EditorData.Generation.Job
import EditorData.Generation.Step
import EditorData.Json.Depth
import EditorData.Json.Printer
import EditorData.Json.Reader
import EditorData.Json.Token
import EditorData.Json.Value
import EditorData.Limits
import EditorData.Logging.Entry
import EditorData.Logging.Setup
import EditorData.Main
import EditorData.Markdown.Code
import EditorData.Markdown.Layout
import EditorData.Markdown.Output
import EditorData.Markup.Node
import EditorData.Markup.Reader
import EditorData.Number.Binary64
import EditorData.Number.Shortest
import EditorData.Reference.Builtin
import EditorData.Reference.Extraction
import EditorData.Reference.Ledger
import EditorData.Reference.RawBuiltin
import EditorData.Reference.Snapshot
import EditorData.Section
import EditorData.Settings.Basic
import EditorData.Settings.EnvFile
import EditorData.Settings.EnvironmentFiles
import EditorData.Settings.Session
import EditorData.Signature.Arguments
import EditorData.Signature.Snippet
import EditorData.Storage.Basic
import EditorData.Storage.Document
import EditorData.Storage.Fault
import EditorData.Storage.Listing
import EditorData.Storage.Path
import EditorData.Storage.Trail
import EditorData.Template.Basic
import EditorData.Template.Kind
import EditorData.Template.Layout
import EditorData.Template.Member
import EditorData.Template.NumberLayout
import EditorData.Template.Value
import EditorData.Template.Vocabulary
import EditorData.Template.Vocabulary.Collection
import EditorData.Template.Vocabulary.Kind
import EditorData.Template.Vocabulary.Number
import EditorData.Template.Vocabulary.Operation
import EditorData.Template.Vocabulary.Text
import EditorData.Text.Basic
import EditorData.Text.Blank
import EditorData.Text.CodePoint
import EditorData.Text.Digit
import EditorData.Text.Integer
import EditorData.Text.Interval
import EditorData.Text.Letter
import EditorData.Text.Printable
import EditorData.Text.Quoted
import EditorData.Text.Uppercase
import EditorData.Text.Utf8
import EditorData.Version
import EditorData.ZigSource.Literal
import EditorData.ZigSource.VersionData
import EditorData.Proofs.Directive.FirstToken
import EditorData.Proofs.Directive.Iteration
import EditorData.Proofs.Directive.Grammar
import EditorData.Proofs.Reference.Completion
import EditorData.Proofs.Reference.Decoding
import EditorData.Proofs.Markup.Printing
import EditorData.Proofs.Markup.Searching
import EditorData.Proofs.Markdown.Written
import EditorData.Proofs.Markup.RoundTrip
import EditorData.Proofs.Markdown.Rendering
import EditorData.Proofs.Directive.Printing
import EditorData.Proofs.Reference.Marks
import EditorData.Proofs.Reference.Reading
import EditorData.Proofs.Reference.Balance
import EditorData.Proofs.Reference.Entries
import EditorData.Proofs.Reference.Freezing
import EditorData.Proofs.Directive.Borders
import EditorData.Proofs.Reference.Consumption
import EditorData.Proofs.Reference.Displacement
import EditorData.Proofs.Reference.Preface
import EditorData.Proofs.Reference.Signatures
import EditorData.Proofs.Reference.Totality
import EditorData.Proofs.Text.Digits
import EditorData.Proofs.Text.Lines
import EditorData.Proofs.Text.Decoding
import EditorData.Proofs.Text.Visible
import EditorData.Proofs.ZigSource.Scanner
import EditorData.Proofs.ZigSource.Reader
import EditorData.Proofs.Markup.Recognition
import EditorData.Proofs.Markup.Joining
import EditorData.Proofs.Markup.Opening
import EditorData.Proofs.Markdown.Shown
import EditorData.Proofs.Markdown.Preservation
import EditorData.Proofs.Markdown.CodeText
import EditorData.Proofs.Markdown.Untouched
import EditorData.Proofs.Markdown.Shrinking
import EditorData.Proofs.Reference.Tidying
import EditorData.Proofs.Reference.CodeFragments
import EditorData.Proofs.Storage.Places
import EditorData.Proofs.Storage.Files
import EditorData.Proofs.Logging.LogFiles
import EditorData.Proofs.Generation.Rendering
import EditorData.Proofs.Generation.Stages
import EditorData.Proofs.CommandLine.Atomicity
import EditorData.Proofs.Number.Nearest
import EditorData.Proofs.Download.Retrying
import EditorData.Proofs.Settings.Caching
import EditorData.Proofs.Storage.Likeness
import EditorData.Proofs.Generation.Snapshots
import EditorData.Proofs.Storage.Folders
import EditorData.Proofs.Section.Splicing
import EditorData.Proofs.Catalogue.Stability
import EditorData.Proofs.Generation.Repetition
import EditorData.Proofs.Settings.Repetition
import EditorData.Proofs.Logging.Reopening
import EditorData.Proofs.CommandLine.Repetition
import EditorData.Proofs.Signature.Nesting
import EditorData.Proofs.Signature.Counting
import EditorData.Proofs.Signature.Joining
import EditorData.Proofs.Signature.Scanning
import EditorData.Proofs.ZigSource.Escaping
import EditorData.Proofs.Markdown.Framing
import EditorData.Proofs.Reference.CleanDocumentation
import EditorData.Proofs.ZigSource.Documentation
import EditorData.Proofs.Signature.Placeholders
import EditorData.Proofs.Version.Grammar
import EditorData.Proofs.CommandLine.DataFile
import EditorData.Proofs.Template.Places
import EditorData.Proofs.Template.Braces
import EditorData.Proofs.Download.Addresses
import EditorData.Proofs.Directive.Concatenation
import EditorData.Proofs.Directive.Characters
import EditorData.Proofs.Reference.Labels
import EditorData.Proofs.Reference.Insertion
import EditorData.Proofs.Dictionary
import EditorData.Proofs.Json.Strings
import EditorData.Proofs.Json.Tokens
import EditorData.Proofs.Json.Values
import EditorData.Proofs.Json.RoundTrip
import EditorData.Proofs.Json.Reading
import EditorData.Proofs.Json.Ascii
import EditorData.Proofs.Catalogue.Naming
import EditorData.Proofs.Json.Limits
import EditorData.Proofs.Catalogue.Schema
import EditorData.Proofs.Catalogue.Surrogates
import EditorData.Proofs.Catalogue.EditorProperties
import EditorData.Proofs.Text.FilledLines
import EditorData.Proofs.Catalogue.Layout
import EditorData.Proofs.Markup.Inline
import EditorData.Proofs.Markdown.Fences
import EditorData.Proofs.Markdown.Paragraphs
import EditorData.Proofs.Storage.Deepening
import EditorData.Proofs.Generation.Saving
import EditorData.Proofs.Catalogue.Padding
import EditorData.Proofs.Markdown.Stepwise
import EditorData.Proofs.Markdown.Endings
import EditorData.Proofs.Logging.Histories
