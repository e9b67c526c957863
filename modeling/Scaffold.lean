import Scaffold.BuildScript
import Scaffold.CommandLine
import Scaffold.Config
import Scaffold.Config.File
import Scaffold.Config.Layers
import Scaffold.Convention
import Scaffold.Decimal.Reading
import Scaffold.Decimal.Shortest
import Scaffold.Declaration
import Scaffold.Declaration.Document
import Scaffold.Declaration.OfSource
import Scaffold.Diff.Script
import Scaffold.Diff.Tidy
import Scaffold.Diff.Unified
import Scaffold.Digest.Sha256
import Scaffold.Disk
import Scaffold.Disk.Change
import Scaffold.Disk.Refusal
import Scaffold.Document
import Scaffold.Failure
import Scaffold.Fault
import Scaffold.Generator
import Scaffold.Glob
import Scaffold.Glob.Token
import Scaffold.Json.Parser
import Scaffold.Json.Printer
import Scaffold.LogSettings
import Scaffold.Main
import Scaffold.Manifest
import Scaffold.NameMap
import Scaffold.Path
import Scaffold.Pipeline
import Scaffold.Pipeline.Schedule
import Scaffold.Program
import Scaffold.Run
import Scaffold.Rust.Format
import Scaffold.Rust.Lexer
import Scaffold.Rust.Lexer.Comment
import Scaffold.Rust.Lexer.Numeral
import Scaffold.Rust.Lexer.Quote
import Scaffold.Rust.Literal
import Scaffold.Rust.Parser
import Scaffold.Rust.Parser.Associated
import Scaffold.Rust.Parser.Attribute
import Scaffold.Rust.Parser.Basic
import Scaffold.Rust.Parser.Classify
import Scaffold.Rust.Parser.Expression
import Scaffold.Rust.Parser.Field
import Scaffold.Rust.Parser.Grammar
import Scaffold.Rust.Parser.Item
import Scaffold.Rust.Parser.Operator
import Scaffold.Rust.Parser.Path
import Scaffold.Rust.Parser.Pattern
import Scaffold.Rust.Parser.Signature
import Scaffold.Rust.Parser.Statement
import Scaffold.Rust.Parser.Type
import Scaffold.Rust.Printer
import Scaffold.Rust.Printer.Attribute
import Scaffold.Rust.Printer.Basic
import Scaffold.Rust.Printer.Expression
import Scaffold.Rust.Printer.Field
import Scaffold.Rust.Printer.Invocation
import Scaffold.Rust.Printer.Item
import Scaffold.Rust.Printer.Path
import Scaffold.Rust.Printer.Pattern
import Scaffold.Rust.Printer.Shape
import Scaffold.Rust.Printer.Signature
import Scaffold.Rust.Printer.Tokens
import Scaffold.Rust.Printer.Type
import Scaffold.Rust.Token
import Scaffold.Rust.Tree
import Scaffold.Scanner
import Scaffold.Sink
import Scaffold.Sink.Directory
import Scaffold.Task
import Scaffold.Template.Builtin
import Scaffold.Template.Evaluation
import Scaffold.Template.ExpressionReader
import Scaffold.Template.Filter
import Scaffold.Template.Function
import Scaffold.Template.Library
import Scaffold.Template.Node
import Scaffold.Template.NodeReader
import Scaffold.Template.Number
import Scaffold.Template.Problem
import Scaffold.Template.Renderer
import Scaffold.Template.Trim
import Scaffold.Template.Value
import Scaffold.Text.Blank
import Scaffold.Text.CharRanges
import Scaffold.Text.Cluster
import Scaffold.Text.Hex
import Scaffold.Text.Identifier
import Scaffold.Text.Layout
import Scaffold.Text.LetterCase
import Scaffold.Text.Lines
import Scaffold.Text.Printable
import Scaffold.Text.Quoted
import Scaffold.Text.Reader
import Scaffold.Text.Substring
import Scaffold.Toml.Parser
import Scaffold.Toml.Scalar
import Scaffold.Toml.Table
import Scaffold.Validation
import Scaffold.ValidationMode
import Scaffold.Warning
import Scaffold.Yaml.Cursor
import Scaffold.Yaml.Lexer
import Scaffold.Yaml.Parser
import Scaffold.Yaml.Property
import Scaffold.Yaml.Scalar
import Scaffold.Yaml.Token
import Scaffold.Proofs.Except
import Scaffold.Proofs.NameMap
import Scaffold.Proofs.NameMap.Gather
import Scaffold.Proofs.Pipeline.Prepare
import Scaffold.Proofs.Pipeline.Memo
import Scaffold.Proofs.Disk
import Scaffold.Proofs.Disk.Inside
import Scaffold.Proofs.Disk.Editing
import Scaffold.Proofs.Disk.Making
import Scaffold.Proofs.Disk.Tree
import Scaffold.Proofs.Digest
import Scaffold.Proofs.Disk.Kept
import Scaffold.Proofs.Sink.Directory
import Scaffold.Proofs.Sink.Refinement
import Scaffold.Proofs.Json
import Scaffold.Proofs.Manifest
import Scaffold.Proofs.Manifest.Loading
import Scaffold.Proofs.Manifest.Update
import Scaffold.Proofs.Manifest.RoundTrip
import Scaffold.Proofs.Pipeline.Run
import Scaffold.Proofs.Pipeline.Schedule
import Scaffold.Proofs.Pipeline.Growth
import Scaffold.Proofs.Pipeline.InTurn
import Scaffold.Proofs.Pipeline.Agreement
import Scaffold.Proofs.Pipeline.Report
import Scaffold.Proofs.Path.Order
import Scaffold.Proofs.Scanner
import Scaffold.Proofs.Scanner.Discovery
import Scaffold.Proofs.Scanner.Outcome
import Scaffold.Proofs.Scanner.History
import Scaffold.Proofs.Glob
import Scaffold.Proofs.Scanner.Generated
import Scaffold.Proofs.Scanner.Spelling
import Scaffold.Proofs.Template.Library
import Scaffold.Proofs.Template.Evaluation
import Scaffold.Proofs.Template.Renderer
import Scaffold.Proofs.Generator
import Scaffold.Proofs.Generator.Recording
import Scaffold.Proofs.Generator.Effect
import Scaffold.Proofs.Generator.Ending
import Scaffold.Proofs.Generator.Forgetting
import Scaffold.Proofs.Generator.Setback
import Scaffold.Proofs.Generator.FixedPoint
import Scaffold.Proofs.Generator.History
import Scaffold.Proofs.Generator.DryRun
import Scaffold.Proofs.Generator.Confinement
import Scaffold.Proofs.Generator.Success
import Scaffold.Proofs.Generator.Ownership
import Scaffold.Proofs.Template.Placeholder
import Scaffold.Proofs.Template.Builtin
import Scaffold.Proofs.Pipeline.Builtin
import Scaffold.Proofs.Pipeline.Permutation
import Scaffold.Proofs.Text
import Scaffold.Proofs.Template.Substitution
import Scaffold.Proofs.Pipeline.Judgement
import Scaffold.Proofs.Rust.Mark
import Scaffold.Proofs.Rust.Reading
import Scaffold.Proofs.Rust.Shape
import Scaffold.Proofs.Rust.Parser.Basic
import Scaffold.Proofs.Rust.Parser.Attribute
import Scaffold.Proofs.Rust.Parser.Path
import Scaffold.Proofs.Rust.Parser.Type
import Scaffold.Proofs.Rust.Parser.Naming
import Scaffold.Proofs.Rust.Parser.Field
import Scaffold.Proofs.Rust.Parser.Associated
import Scaffold.Proofs.Rust.Parser.Item
import Scaffold.Proofs.Rust.Parser.Pattern
import Scaffold.Proofs.Rust.Parser.Operator
import Scaffold.Proofs.Rust.Parser
import Scaffold.Proofs.Template.Fingerprint
import Scaffold.Proofs.Manifest.Orphans
import Scaffold.Proofs.Generator.Listing
import Scaffold.Proofs.Generator.Faults
import Scaffold.Proofs.Declaration.Places
import Scaffold.Proofs.Declaration.Order
import Scaffold.Proofs.Sink.FileName
import Scaffold.Proofs.Document
import Scaffold.Proofs.Config.Resolution
import Scaffold.Proofs.Declaration.RoundTrip
import Scaffold.Proofs.Config.File
import Scaffold.Proofs.Config.Layers
import Scaffold.Proofs.Program
