import WorkspacePolicy.Clause
import WorkspacePolicy.CommandLine.Arguments
import WorkspacePolicy.CommandLine.ColumnWidth
import WorkspacePolicy.CommandLine.Markup
import WorkspacePolicy.CommandLine.Run
import WorkspacePolicy.CommandLine.StyleName
import WorkspacePolicy.CommandLine.Table
import WorkspacePolicy.CommandLine.TagParameters
import WorkspacePolicy.CommandLine.Terminal
import WorkspacePolicy.CommandLine.Trouble
import WorkspacePolicy.Diagnosis.Basic
import WorkspacePolicy.Diagnosis.Interpret
import WorkspacePolicy.Engine.Backend
import WorkspacePolicy.Engine.Basic
import WorkspacePolicy.Engine.Bridge
import WorkspacePolicy.Engine.Bridge.Reply
import WorkspacePolicy.Engine.Failure
import WorkspacePolicy.Engine.Scripted
import WorkspacePolicy.Entries
import WorkspacePolicy.Files.Glob
import WorkspacePolicy.Files.NamePattern
import WorkspacePolicy.Files.Path
import WorkspacePolicy.Files.Tree
import WorkspacePolicy.Json.Basic
import WorkspacePolicy.Json.Reader
import WorkspacePolicy.Json.Shown
import WorkspacePolicy.Json.Writer
import WorkspacePolicy.Main
import WorkspacePolicy.Number.Arithmetic
import WorkspacePolicy.Number.Basic
import WorkspacePolicy.Number.Binary64
import WorkspacePolicy.Number.Decimal
import WorkspacePolicy.Number.Shortest
import WorkspacePolicy.Number.Whole
import WorkspacePolicy.Numbered
import WorkspacePolicy.Policy.Basic
import WorkspacePolicy.Policy.Conclusion
import WorkspacePolicy.Policy.Evaluation
import WorkspacePolicy.Policy.RowSequence
import WorkspacePolicy.Project.Basic
import WorkspacePolicy.Project.Configuration
import WorkspacePolicy.Project.Database
import WorkspacePolicy.Project.FaultMessage
import WorkspacePolicy.Project.Ident
import WorkspacePolicy.Project.Load
import WorkspacePolicy.Project.Manifest
import WorkspacePolicy.Proofs.Engine.Action
import WorkspacePolicy.Proofs.Engine.Bridge.Goals
import WorkspacePolicy.Proofs.Engine.Scripted
import WorkspacePolicy.Proofs.Except
import WorkspacePolicy.Proofs.Files.Place
import WorkspacePolicy.Proofs.Policy.Conclusion
import WorkspacePolicy.Proofs.Policy.Evaluation
import WorkspacePolicy.Proofs.Policy.FailFast
import WorkspacePolicy.Proofs.Policy.Identity
import WorkspacePolicy.Proofs.Policy.Order
import WorkspacePolicy.Proofs.Project.Database
import WorkspacePolicy.Proofs.Project.Field
import WorkspacePolicy.Proofs.Project.Ident
import WorkspacePolicy.Proofs.Project.Loaded
import WorkspacePolicy.Proofs.Session.Collect
import WorkspacePolicy.Proofs.Term.Decodable
import WorkspacePolicy.Proofs.Term.Items
import WorkspacePolicy.Proofs.Term.Lexeme
import WorkspacePolicy.Proofs.Term.QuotedName
import WorkspacePolicy.Proofs.Text.Order
import WorkspacePolicy.QueryText
import WorkspacePolicy.Registry
import WorkspacePolicy.Session.AnswerSequence
import WorkspacePolicy.Session.Basic
import WorkspacePolicy.Session.Pull
import WorkspacePolicy.Session.Thread
import WorkspacePolicy.Term.Basic
import WorkspacePolicy.Term.Data
import WorkspacePolicy.Term.Link
import WorkspacePolicy.Term.Printer
import WorkspacePolicy.Term.Quote
import WorkspacePolicy.Text.Blank
import WorkspacePolicy.Text.CellWidth
import WorkspacePolicy.Text.Lines
import WorkspacePolicy.Text.LowerCase
import WorkspacePolicy.Text.Numeral
import WorkspacePolicy.Text.Order
import WorkspacePolicy.Text.Pictograph
import WorkspacePolicy.Text.Printable
import WorkspacePolicy.Text.Quoted
import WorkspacePolicy.Text.Surrogate
import WorkspacePolicy.Text.Wrap
import WorkspacePolicy.Workbench
import WorkspacePolicy.Yaml.Cursor
import WorkspacePolicy.Yaml.Document
import WorkspacePolicy.Yaml.Merge
import WorkspacePolicy.Yaml.Node
import WorkspacePolicy.Yaml.Plain
import WorkspacePolicy.Yaml.Scalar
import WorkspacePolicy.Yaml.Token
import WorkspacePolicy.Yaml.Value
import WorkspacePolicy.Proofs.Engine.Bridge.Calls
import WorkspacePolicy.Proofs.Engine.Bridge.Exchange
import WorkspacePolicy.Proofs.Engine.Bridge.Ledger
import WorkspacePolicy.Proofs.Engine.Bridge.Operations
import WorkspacePolicy.Proofs.Engine.Bridge.Handles
import WorkspacePolicy.Proofs.Workbench.Moves
import WorkspacePolicy.Proofs.Session.Steps
import WorkspacePolicy.Proofs.Workbench.AfterClose
import WorkspacePolicy.Proofs.Engine.Bridge.Encoding
import WorkspacePolicy.Proofs.Session.Refinement
import WorkspacePolicy.Proofs.Engine.Separation
import WorkspacePolicy.Proofs.Session.Footprint
import WorkspacePolicy.Proofs.Session.Alone
import WorkspacePolicy.Proofs.Policy.Rows
import WorkspacePolicy.Proofs.Workbench.Interleaving
import WorkspacePolicy.Proofs.Policy.RowLifetime
import WorkspacePolicy.Proofs.Policy.RowStream
import WorkspacePolicy.Proofs.Session.Initialisation
import WorkspacePolicy.Proofs.Workbench.Isolation
import WorkspacePolicy.Proofs.Project.Relisted
import WorkspacePolicy.Proofs.CommandLine.AllOrNothing
import WorkspacePolicy.Proofs.Diagnosis.Wrapped
import WorkspacePolicy.Proofs.Policy.Sorted
import WorkspacePolicy.Proofs.CommandLine.Unloadable
import WorkspacePolicy.Proofs.Project.IdentGrammar
import WorkspacePolicy.Proofs.QueryText
import WorkspacePolicy.Proofs.Project.Named
import WorkspacePolicy.Proofs.Term.CanonicalJson
import WorkspacePolicy.Proofs.Diagnosis.PositionList
import WorkspacePolicy.Proofs.Project.Manifest
import WorkspacePolicy.Proofs.Project.Linkage
import WorkspacePolicy.Proofs.Term.OneLine
import WorkspacePolicy.Proofs.Term.NameGrammar
import WorkspacePolicy.Proofs.Term.ProperList
import WorkspacePolicy.Proofs.Term.ReadBack
