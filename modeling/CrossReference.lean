import CrossReference.Analysis
import CrossReference.CommandLine.Invocation
import CrossReference.CommandLine.Run
import CrossReference.CommandLine.Switch
import CrossReference.CommandLine.Words
import CrossReference.Element.Basic
import CrossReference.Element.Tree
import CrossReference.ElementId
import CrossReference.Error
import CrossReference.Folder
import CrossReference.Graph.Basic
import CrossReference.Graph.Build
import CrossReference.Graph.Data
import CrossReference.Json.Forms
import CrossReference.Json.Parses
import CrossReference.Json.Read
import CrossReference.Json.Record
import CrossReference.Json.Value
import CrossReference.Lowering.Construct
import CrossReference.Lowering.Pattern
import CrossReference.Lowering.Recursion
import CrossReference.Lowering.State
import CrossReference.Lowering.WorkStack
import CrossReference.Main
import CrossReference.Parse.Fault
import CrossReference.Parse.Node
import CrossReference.Program
import CrossReference.Proofs.Analysis.Contained
import CrossReference.Proofs.Analysis.Presentation
import CrossReference.Proofs.Analysis.WireForm
import CrossReference.Proofs.Element.Identity
import CrossReference.Proofs.Element.Inside
import CrossReference.Proofs.Element.Linked
import CrossReference.Proofs.Element.Reach
import CrossReference.Proofs.Element.Role
import CrossReference.Proofs.Element.Visits
import CrossReference.Proofs.ElementId.Grammar
import CrossReference.Proofs.ElementId.Text
import CrossReference.Proofs.Folder.Writing
import CrossReference.Proofs.Graph.Arguments
import CrossReference.Proofs.Graph.Building
import CrossReference.Proofs.Graph.Contribution
import CrossReference.Proofs.Graph.Labels
import CrossReference.Proofs.Graph.Order
import CrossReference.Proofs.Graph.Store
import CrossReference.Proofs.Json.Graphs
import CrossReference.Proofs.Json.Records
import CrossReference.Proofs.Json.Strings
import CrossReference.Proofs.Json.Written
import CrossReference.Proofs.Lowering.Binders
import CrossReference.Proofs.Lowering.BindingTable
import CrossReference.Proofs.Lowering.Declaring
import CrossReference.Proofs.Lowering.Elements
import CrossReference.Proofs.Lowering.EnclosingFunction
import CrossReference.Proofs.Lowering.Fields
import CrossReference.Proofs.Lowering.Inside
import CrossReference.Proofs.Lowering.Keeps
import CrossReference.Proofs.Lowering.Kind
import CrossReference.Proofs.Lowering.Marks
import CrossReference.Proofs.Lowering.Nesting
import CrossReference.Proofs.Lowering.Numbering
import CrossReference.Proofs.Lowering.Openers
import CrossReference.Proofs.Lowering.ParameterNames
import CrossReference.Proofs.Lowering.Pattern
import CrossReference.Proofs.Lowering.Preorder
import CrossReference.Proofs.Lowering.Progress
import CrossReference.Proofs.Lowering.Recurses
import CrossReference.Proofs.Lowering.Redeclared
import CrossReference.Proofs.Lowering.Resolution
import CrossReference.Proofs.Lowering.Roles
import CrossReference.Proofs.Lowering.ScopeStructure
import CrossReference.Proofs.Lowering.Shapes
import CrossReference.Proofs.Lowering.Site
import CrossReference.Proofs.Lowering.Targets
import CrossReference.Proofs.Parse.Faults
import CrossReference.Proofs.Parse.Nodes
import CrossReference.Proofs.Parse.Paths
import CrossReference.Proofs.Scope.History
import CrossReference.Proofs.Scope.Lookup
import CrossReference.Proofs.Scope.Nested
import CrossReference.Proofs.Service.FrontEnds
import CrossReference.Proofs.Settings.Document
import CrossReference.Proofs.Settings.History
import CrossReference.Proofs.Text.Excerpt
import CrossReference.Proofs.Text.Hex
import CrossReference.Proofs.Text.Numeral
import CrossReference.Proofs.Toml.Documents
import CrossReference.Proofs.Toml.Strings
import CrossReference.Proofs.Watch.History
import CrossReference.Relation
import CrossReference.Scope
import CrossReference.Service
import CrossReference.Settings
import CrossReference.Settings.Store
import CrossReference.Span
import CrossReference.Table.Graph
import CrossReference.Table.Layout
import CrossReference.Text.Blank
import CrossReference.Text.Decimal
import CrossReference.Text.Excerpt
import CrossReference.Text.Hex
import CrossReference.Text.Hidden
import CrossReference.Text.Mark
import CrossReference.Text.Quoted
import CrossReference.Text.Slice
import CrossReference.Text.Split
import CrossReference.Text.Width
import CrossReference.Toml.Document
import CrossReference.Toml.Forms
import CrossReference.Toml.Scalar
import CrossReference.Toml.Tables
import CrossReference.Toml.Text
import CrossReference.Toml.Value
import CrossReference.Toml.Write
import CrossReference.Watch
import CrossReference.Proofs.Lowering.Marking
import CrossReference.Proofs.Table.Edges
import CrossReference.Proofs.Settings.Overlay
