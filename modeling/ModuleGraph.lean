import ModuleGraph.CommandLine.Options
import ModuleGraph.CommandLine.Report
import ModuleGraph.CommandLine.Run
import ModuleGraph.Decimal.Shortest
import ModuleGraph.FilePath
import ModuleGraph.FileSystem.Basic
import ModuleGraph.FileSystem.Tree
import ModuleGraph.Graph.Basic
import ModuleGraph.Graph.Loader
import ModuleGraph.Graph.Scan
import ModuleGraph.Json.Basic
import ModuleGraph.Json.Parser
import ModuleGraph.Main
import ModuleGraph.Package.Manifest
import ModuleGraph.Package.Name
import ModuleGraph.Package.Pattern
import ModuleGraph.Package.Store
import ModuleGraph.Package.Target
import ModuleGraph.Platform
import ModuleGraph.Resolve.Error
import ModuleGraph.Resolve.Format
import ModuleGraph.Resolve.Package
import ModuleGraph.Resolve.Resolver
import ModuleGraph.Resolve.Specifier
import ModuleGraph.Resolve.Target
import ModuleGraph.Script.Cursor
import ModuleGraph.Script.Grammar.Binding
import ModuleGraph.Script.Grammar.Class
import ModuleGraph.Script.Grammar.Declaration
import ModuleGraph.Script.Grammar.Expression
import ModuleGraph.Script.Grammar.Function
import ModuleGraph.Script.Grammar.Modifier
import ModuleGraph.Script.Grammar.Module
import ModuleGraph.Script.Grammar.Statement
import ModuleGraph.Script.Grammar.Type
import ModuleGraph.Script.Lexer
import ModuleGraph.Script.Parser
import ModuleGraph.Script.Shape
import ModuleGraph.Script.Source
import ModuleGraph.Script.Summary
import ModuleGraph.Script.Token
import ModuleGraph.Text.Blank
import ModuleGraph.Text.CombiningClass
import ModuleGraph.Text.CombiningMark
import ModuleGraph.Text.Composition
import ModuleGraph.Text.Direction
import ModuleGraph.Text.Identifier
import ModuleGraph.Text.Joining
import ModuleGraph.Text.Normalization
import ModuleGraph.Text.Percent
import ModuleGraph.Text.Printable
import ModuleGraph.Text.Quoted
import ModuleGraph.Text.Ranges
import ModuleGraph.Text.Split
import ModuleGraph.Text.Utf8
import ModuleGraph.Url.Basic
import ModuleGraph.Url.Domain
import ModuleGraph.Url.Domain.EastAsian
import ModuleGraph.Url.Domain.Forms
import ModuleGraph.Url.Domain.Ideographs
import ModuleGraph.Url.Domain.Letters
import ModuleGraph.Url.Domain.Mapping
import ModuleGraph.Url.Domain.Symbols
import ModuleGraph.Url.File
import ModuleGraph.Url.Host
import ModuleGraph.Url.Parser
import ModuleGraph.Url.Punycode
import ModuleGraph.Proofs.Resolve.Coupling
import ModuleGraph.Proofs.Store.Coupling
import ModuleGraph.Proofs.Text.Split
import ModuleGraph.Proofs.FilePath.Pieces
import ModuleGraph.Proofs.FileSystem.Spelling
import ModuleGraph.Proofs.Store.Snapshot
import ModuleGraph.Proofs.Store.Transparency
import ModuleGraph.Proofs.Graph.Coupling
import ModuleGraph.Proofs.Resolve.History
import ModuleGraph.Proofs.Graph.Report
import ModuleGraph.Proofs.Graph.Schedule
import ModuleGraph.Proofs.Graph.Index
import ModuleGraph.Proofs.Graph.Ledger
import ModuleGraph.Proofs.Graph.Invariant
import ModuleGraph.Proofs.Graph.Outcome
import ModuleGraph.Proofs.Graph.Closure
import ModuleGraph.Proofs.Graph.Confluence
import ModuleGraph.Proofs.Text.Utf8
import ModuleGraph.Proofs.Text.Percent
import ModuleGraph.Proofs.Url.File
import ModuleGraph.Proofs.Url.Regular
import ModuleGraph.Proofs.Store.Results
import ModuleGraph.Proofs.Resolve.Results
import ModuleGraph.Proofs.Graph.Identity
import ModuleGraph.Proofs.FileSystem.Walk
import ModuleGraph.Proofs.FileSystem.Names
import ModuleGraph.Proofs.FileSystem.Canonical
import ModuleGraph.Proofs.Url.Directory
import ModuleGraph.Proofs.Text.Ascii
import ModuleGraph.Proofs.Resolve.Segments
import ModuleGraph.Proofs.Resolve.Containment
import ModuleGraph.Proofs.Json.Members
import ModuleGraph.Proofs.Package.Pattern
import ModuleGraph.Proofs.Resolve.Agreement
import ModuleGraph.Proofs.Package.Reordering
import ModuleGraph.Proofs.Resolve.Conditions
import ModuleGraph.Proofs.Resolve.Nearest
import ModuleGraph.Proofs.Resolve.Import
import ModuleGraph.Proofs.Graph.Reach
import ModuleGraph.Proofs.Graph.Termination
import ModuleGraph.Proofs.Graph.Entries
import ModuleGraph.Proofs.Graph.Failures
import ModuleGraph.Proofs.Url.Rereading
import ModuleGraph.Proofs.Resolve.Fixpoint
import ModuleGraph.Proofs.Url.PathForm
import ModuleGraph.Proofs.Resolve.Importer
import ModuleGraph.Proofs.Package.Selection
import ModuleGraph.Proofs.Package.Splitting
import ModuleGraph.Proofs.Resolve.Evaluation
import ModuleGraph.Proofs.Resolve.Rewriting
import ModuleGraph.Proofs.Resolve.Encapsulation
import ModuleGraph.Proofs.Resolve.Handover
import ModuleGraph.Proofs.Resolve.CallTree
import ModuleGraph.Proofs.Resolve.Exports
import ModuleGraph.Proofs.Resolve.Reentry
import ModuleGraph.Proofs.FilePath.Ancestors
import ModuleGraph.Proofs.Resolve.Scope
import ModuleGraph.Proofs.Graph.Answers
import ModuleGraph.Proofs.Graph.Chronicle
import ModuleGraph.Proofs.Graph.Counter
import ModuleGraph.Proofs.Resolve.InstallPlace
import ModuleGraph.Proofs.Graph.BreadthFirst
import ModuleGraph.Proofs.Graph.Discovery
import ModuleGraph.Proofs.Url.Front
import ModuleGraph.Proofs.Resolve.Suffix
import ModuleGraph.Proofs.Json.Ordered
import ModuleGraph.Proofs.Package.Fields
import ModuleGraph.Proofs.Package.Specificity
import ModuleGraph.Proofs.Resolve.ArrayIndex
import ModuleGraph.Proofs.Resolve.Respelling
