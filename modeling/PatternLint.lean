import PatternLint.CommandLine.Key
import PatternLint.CommandLine.Misuse
import PatternLint.CommandLine.Request
import PatternLint.CommandLine.Run
import PatternLint.CommandLine.Token
import PatternLint.Configuration.Basic
import PatternLint.Configuration.Load
import PatternLint.Correction.Apply
import PatternLint.Correction.Rewrite
import PatternLint.Decimal.Binary
import PatternLint.Decimal.Layout
import PatternLint.Decimal.Shortest
import PatternLint.Files.Access
import PatternLint.Files.Discovery
import PatternLint.Files.Place
import PatternLint.Files.Tree
import PatternLint.Linter.Basic
import PatternLint.Linter.Correct
import PatternLint.Main
import PatternLint.Matching
import PatternLint.Note
import PatternLint.PartitionPoint
import PatternLint.Path
import PatternLint.Pattern.Basic
import PatternLint.Pattern.Dialect
import PatternLint.Pattern.Engine
import PatternLint.Pattern.Matcher
import PatternLint.Pattern.Reader
import PatternLint.Pattern.Run
import PatternLint.Pattern.Template
import PatternLint.Proofs.Configuration.Keys
import PatternLint.Proofs.Configuration.Loading
import PatternLint.Proofs.Configuration.Reading
import PatternLint.Proofs.Correction.Batch
import PatternLint.Proofs.Correction.Blanking
import PatternLint.Proofs.Correction.Convergence
import PatternLint.Proofs.Correction.Layout
import PatternLint.Proofs.Correction.Outcome
import PatternLint.Proofs.Correction.Repetition
import PatternLint.Proofs.Correction.Rewrite
import PatternLint.Proofs.Correction.Tails
import PatternLint.Proofs.Correction.Verdict
import PatternLint.Proofs.Correction.WriteOnce
import PatternLint.Proofs.Declaration.Appending
import PatternLint.Proofs.Declaration.Crossing
import PatternLint.Proofs.Declaration.Form
import PatternLint.Proofs.Declaration.Immunity
import PatternLint.Proofs.Declaration.LineEnds
import PatternLint.Proofs.Declaration.Pattern
import PatternLint.Proofs.Declaration.Walk
import PatternLint.Proofs.Files.Discovery
import PatternLint.Proofs.Files.Replacement
import PatternLint.Proofs.Files.Roots
import PatternLint.Proofs.Files.Tree
import PatternLint.Proofs.Linter.Abort
import PatternLint.Proofs.Linter.Autocorrection
import PatternLint.Proofs.Linter.Isolation
import PatternLint.Proofs.Linter.Pass
import PatternLint.Proofs.Linter.Refusal
import PatternLint.Proofs.Linter.Remaining
import PatternLint.Proofs.Linter.Run
import PatternLint.Proofs.Linter.WriteBack
import PatternLint.Proofs.Matching
import PatternLint.Proofs.Matching.Scan
import PatternLint.Proofs.Matching.Spans
import PatternLint.Proofs.Matching.UnknownGroup
import PatternLint.Proofs.PartitionPoint
import PatternLint.Proofs.Pattern.Loop
import PatternLint.Proofs.Pattern.Place
import PatternLint.Proofs.Pattern.Search
import PatternLint.Proofs.Region.Collection
import PatternLint.Proofs.Region.Form
import PatternLint.Proofs.Region.Precedence
import PatternLint.Proofs.Report.Accounts
import PatternLint.Proofs.Report.Outcomes
import PatternLint.Proofs.Span
import PatternLint.Proofs.Syntax.BlockComment
import PatternLint.Proofs.Syntax.Edges
import PatternLint.Proofs.Syntax.ExcludedSet
import PatternLint.Proofs.Syntax.Grammar
import PatternLint.Proofs.Syntax.LineEnds
import PatternLint.Proofs.Syntax.Locality
import PatternLint.Proofs.Syntax.Partition
import PatternLint.Proofs.Syntax.Scan
import PatternLint.Proofs.Syntax.Seen
import PatternLint.Proofs.Syntax.SingleLine
import PatternLint.Proofs.Text.Crlf
import PatternLint.Proofs.Text.Line
import PatternLint.Proofs.Text.Location
import PatternLint.Proofs.Text.Place
import PatternLint.Proofs.Text.Utf8
import PatternLint.Proofs.Text.WellFormed
import PatternLint.Region.Directive
import PatternLint.Region.Map
import PatternLint.Report.Basic
import PatternLint.Report.Document
import PatternLint.Report.Finding
import PatternLint.Report.Table
import PatternLint.Rule.Basic
import PatternLint.Rule.Catalogue
import PatternLint.Rule.Declaration
import PatternLint.Rule.OptionalInitialization
import PatternLint.Rule.Verification
import PatternLint.Severity
import PatternLint.Source
import PatternLint.Span
import PatternLint.Syntax.Classify
import PatternLint.Syntax.Comment
import PatternLint.Syntax.ExcludedSet
import PatternLint.Syntax.Item
import PatternLint.Syntax.Literal
import PatternLint.Text.Basic
import PatternLint.Text.Blank
import PatternLint.Text.Case
import PatternLint.Text.CharTable
import PatternLint.Text.Digit
import PatternLint.Text.Identifier
import PatternLint.Text.Padded
import PatternLint.Text.Printable
import PatternLint.Text.Quoted
import PatternLint.Text.Stream
import PatternLint.Text.Utf8
import PatternLint.Text.Word
import PatternLint.Unforeseen
import PatternLint.Value.Basic
import PatternLint.Value.Printed
import PatternLint.Yaml.Lexer
import PatternLint.Yaml.Load
import PatternLint.Yaml.Loader
import PatternLint.Yaml.Node
import PatternLint.Yaml.Number
import PatternLint.Yaml.Read
import PatternLint.Yaml.Scalar
import PatternLint.Yaml.Token
