import DataContract.Calendar
import DataContract.Command.Basic
import DataContract.Command.Needs
import DataContract.Command.Option
import DataContract.Command.Request
import DataContract.Contract.Basic
import DataContract.Contract.Constraint
import DataContract.Contract.FieldType
import DataContract.Declaration.Basic
import DataContract.Declaration.Fault
import DataContract.Definition.Conversion
import DataContract.Definition.Document
import DataContract.Definition.File
import DataContract.Definition.Format
import DataContract.Environment
import DataContract.Files.Path
import DataContract.Files.Tree
import DataContract.Guard.Basic
import DataContract.Guard.Policy
import DataContract.Guard.Signature
import DataContract.Guard.Tally
import DataContract.Journal.Action
import DataContract.Journal.Basic
import DataContract.Journal.Level
import DataContract.Journal.Line
import DataContract.Journal.Logbook
import DataContract.Journal.Template
import DataContract.Journal.Template.Filling
import DataContract.JsonText.Reader
import DataContract.JsonText.Writer
import DataContract.Main
import DataContract.Number.Double
import DataContract.Number.Rounded
import DataContract.Number.Shortest
import DataContract.Number.Text
import DataContract.Pattern.Basic
import DataContract.Pattern.Reader
import DataContract.Pattern.Search
import DataContract.Pattern.Tree
import DataContract.Proofs.Contract.Check
import DataContract.Proofs.Contract.Tree
import DataContract.Proofs.Guard.Binding
import DataContract.Proofs.Guard.Decision
import DataContract.Proofs.Guard.Enforcement
import DataContract.Proofs.Guard.Passing
import DataContract.Proofs.Lists
import DataContract.Proofs.Result
import DataContract.Proofs.Validation.Attribution
import DataContract.Proofs.Validation.Conformance
import DataContract.Proofs.Validation.Outcome
import DataContract.Proofs.Validation.Place
import DataContract.Proofs.Validation.Report
import DataContract.Proofs.Validation.Totality
import DataContract.Proofs.Value.Keys
import DataContract.Proofs.Value.Written
import DataContract.Reading.Any
import DataContract.Reading.Contract
import DataContract.Reading.Fault
import DataContract.Reading.Model
import DataContract.Reading.Outcome
import DataContract.Reading.Scalar
import DataContract.Registry.Basic
import DataContract.Registry.Lineage
import DataContract.Registry.Owner
import DataContract.Registry.Source
import DataContract.Registry.Store
import DataContract.Settings.Basic
import DataContract.Settings.Config
import DataContract.Settings.Loading
import DataContract.Text.Blank
import DataContract.Text.Case
import DataContract.Text.CodeSet
import DataContract.Text.Grapheme
import DataContract.Text.GraphemeClass
import DataContract.Text.Identifier
import DataContract.Text.Printable
import DataContract.Text.Quoted
import DataContract.Text.Utf8
import DataContract.Text.Word
import DataContract.Validation.Engine
import DataContract.Validation.Violation
import DataContract.Value.Basic
import DataContract.Value.Entries
import DataContract.Value.Equality
import DataContract.Value.Rendering
import DataContract.Yaml.Basic
import DataContract.Yaml.Cursor
import DataContract.Yaml.Node
import DataContract.Yaml.Number
import DataContract.Yaml.Tag
import DataContract.Yaml.Timestamp
import DataContract.Yaml.Token
import DataContract.Yaml.Token.Lexer
import DataContract.Yaml.Token.Scalar
import DataContract.Proofs.Declaration.Applicability
import DataContract.Proofs.Guard.Transparency
import DataContract.Proofs.Guard.Ownership
import DataContract.Proofs.Definition.Report
import DataContract.Proofs.Reading.Repetition
import DataContract.Proofs.Definition.Grammar
import DataContract.Proofs.Definition.Conversion
import DataContract.Proofs.Definition.Loading
import DataContract.Proofs.Contract.Value
import DataContract.Proofs.Reading.Success
import DataContract.Proofs.Declaration.Building
import DataContract.Proofs.Declaration.Description
import DataContract.Proofs.Definition.Assembly
import DataContract.Proofs.Definition.Acceptance
import DataContract.Proofs.Definition.Agreement
import DataContract.Proofs.Definition.Meaning
import DataContract.Proofs.Registry.Basic
import DataContract.Proofs.Registry.Ledger
import DataContract.Proofs.Registry.Operation
import DataContract.Proofs.Registry.Runs
import DataContract.Proofs.Registry.Attachment
import DataContract.Proofs.Registry.Hierarchy
import DataContract.Proofs.Registry.Lookup
import DataContract.Proofs.Definition.Loadable
import DataContract.Proofs.Definition.Growth
import DataContract.Proofs.Validation.DeclaredPart
import DataContract.Proofs.Guard.Judgement
import DataContract.Proofs.Guard.Accounting
import DataContract.Proofs.Reading.Field
import DataContract.Proofs.Construction.Made
import DataContract.Proofs.Construction.Refusal
import DataContract.Proofs.Text.Splitting
import DataContract.Proofs.Files.Reading
import DataContract.Proofs.Command.Ending
import DataContract.Proofs.Validation.Composition
import DataContract.Proofs.Validation.Tightening
import DataContract.Proofs.Command.Verdict
import DataContract.Proofs.Settings.Keeping
import DataContract.Proofs.Text.Clusters
import DataContract.Proofs.Contract.Length
import DataContract.Proofs.Number.Exact
import DataContract.Proofs.Contract.Range
import DataContract.Proofs.Contract.Kinds
import DataContract.Proofs.Validation.Wording
import DataContract.Proofs.Validation.Mismatch
import DataContract.Proofs.Value.Parts
import DataContract.Proofs.Value.Facing
import DataContract.Proofs.Contract.Membership
import DataContract.Proofs.Environment.Substitution
import DataContract.Proofs.Validation.Naming
import DataContract.Proofs.Validation.Lines
import DataContract.Proofs.Value.Line
import DataContract.Proofs.Settings.Precedence
import DataContract.Proofs.Declaration.Spelling
import DataContract.Proofs.Settings.Files
import DataContract.Proofs.Journal.Decoding
