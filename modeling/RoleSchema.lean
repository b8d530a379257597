import RoleSchema.CommandLine.Arguments
import RoleSchema.CommandLine.Command
import RoleSchema.CommandLine.Help
import RoleSchema.CommandLine.Run
import RoleSchema.CommandLine.Usage
import RoleSchema.Concept
import RoleSchema.Data.Base64
import RoleSchema.Data.Binary64
import RoleSchema.Data.Calendar
import RoleSchema.Data.Clock
import RoleSchema.Data.Graph.Basic
import RoleSchema.Data.Graph.Merge
import RoleSchema.Data.Merge
import RoleSchema.Data.Value
import RoleSchema.Files.Path
import RoleSchema.Files.Store
import RoleSchema.Generation
import RoleSchema.Hierarchy
import RoleSchema.Listing
import RoleSchema.Main
import RoleSchema.Model.Basic
import RoleSchema.Model.Document
import RoleSchema.Model.Query
import RoleSchema.Naming
import RoleSchema.Rel.Syntax
import RoleSchema.Rel.Text
import RoleSchema.Relation.Constraint
import RoleSchema.Relation.Inference
import RoleSchema.Relation.ReferenceMode
import RoleSchema.Report.Basic
import RoleSchema.Report.Console
import RoleSchema.Report.Diagnostic
import RoleSchema.Report.Log
import RoleSchema.Report.LogFile
import RoleSchema.Report.Markup
import RoleSchema.Report.Table
import RoleSchema.Schema
import RoleSchema.Settings.Basic
import RoleSchema.Settings.Check
import RoleSchema.Settings.Environment
import RoleSchema.Settings.Fault
import RoleSchema.Settings.Layer
import RoleSchema.Settings.Load
import RoleSchema.Settings.Quantity
import RoleSchema.Text.Blank
import RoleSchema.Text.Case
import RoleSchema.Text.CaseTable
import RoleSchema.Text.CellWidth
import RoleSchema.Text.Emoji
import RoleSchema.Text.EmojiTable
import RoleSchema.Text.Encoding
import RoleSchema.Text.Invisible
import RoleSchema.Text.Number
import RoleSchema.Text.Numeral
import RoleSchema.Text.Quoted
import RoleSchema.Text.Ranges
import RoleSchema.Text.Similarity
import RoleSchema.Text.Split
import RoleSchema.Text.Template
import RoleSchema.Text.Utf8
import RoleSchema.Xml.Character
import RoleSchema.Xml.Content
import RoleSchema.Xml.Declaration
import RoleSchema.Xml.Doctype.Basic
import RoleSchema.Xml.Doctype.Token
import RoleSchema.Xml.Document
import RoleSchema.Xml.Element
import RoleSchema.Xml.Fault
import RoleSchema.Xml.Item
import RoleSchema.Xml.NameTable
import RoleSchema.Xml.Namespace
import RoleSchema.Xml.Reference
import RoleSchema.Xml.Scanner
import RoleSchema.Yaml.Cursor
import RoleSchema.Yaml.Document
import RoleSchema.Yaml.Inclusion
import RoleSchema.Yaml.Kind
import RoleSchema.Yaml.Layout
import RoleSchema.Yaml.Node
import RoleSchema.Yaml.Scalar
import RoleSchema.Yaml.ScalarValue
import RoleSchema.Yaml.Source
import RoleSchema.Yaml.Token
import RoleSchema.Proofs.Model.Extension
import RoleSchema.Proofs.Model.Lookup
import RoleSchema.Proofs.Model.Preference
import RoleSchema.Proofs.Model.Alteration
import RoleSchema.Proofs.Rel.Meaning
import RoleSchema.Proofs.Text.Lines
import RoleSchema.Proofs.Result
import RoleSchema.Proofs.Files.Inside
import RoleSchema.Proofs.Rel.Lines
import RoleSchema.Proofs.Hierarchy.Reach
import RoleSchema.Proofs.Hierarchy.Walks
import RoleSchema.Proofs.Hierarchy.Preorder
import RoleSchema.Proofs.Relation.ReferenceMode
import RoleSchema.Proofs.Relation.Recognition
import RoleSchema.Proofs.Relation.Inference
import RoleSchema.Proofs.Relation.Clauses
import RoleSchema.Proofs.Population.Basic
import RoleSchema.Proofs.Population.Mandatory
import RoleSchema.Proofs.Population.Uniqueness
import RoleSchema.Proofs.Relation.Agreement
import RoleSchema.Proofs.Relation.Arity
import RoleSchema.Proofs.Relation.Faults
import RoleSchema.Proofs.Relation.Coverage
import RoleSchema.Proofs.Relation.Labelling
import RoleSchema.Proofs.Relation.Lines
import RoleSchema.Proofs.Relation.ModeClauses
import RoleSchema.Proofs.Relation.Alteration
import RoleSchema.Proofs.Relation.RoleOrder
import RoleSchema.Proofs.Schema.Alteration
import RoleSchema.Proofs.Schema.Plan
import RoleSchema.Proofs.Schema.Extension
import RoleSchema.Proofs.Schema.Frame
import RoleSchema.Proofs.Schema.Independence
import RoleSchema.Proofs.Schema.Isolation
import RoleSchema.Proofs.Schema.Silence
import RoleSchema.Proofs.Xml.Insertion
import RoleSchema.Proofs.Generation
import RoleSchema.Proofs.Generation.Writing
import RoleSchema.Proofs.Generation.Failure
import RoleSchema.Proofs.Generation.Overwriting
import RoleSchema.Proofs.Model.UnknownElements
import RoleSchema.Proofs.Xml.Renaming
import RoleSchema.Proofs.Model.Renaming
import RoleSchema.Proofs.CommandLine.Listing
import RoleSchema.Proofs.CommandLine.Agreement
import RoleSchema.Proofs.Data.Merge
import RoleSchema.Proofs.Relation.Columns
import RoleSchema.Proofs.Yaml.Documents
import RoleSchema.Proofs.Settings.Check
import RoleSchema.Proofs.Settings.Layers
import RoleSchema.Proofs.Settings.Loading
import RoleSchema.Proofs.Rel.Reading
import RoleSchema.Proofs.Relation.Account
import RoleSchema.Proofs.Relation.Rendering
import RoleSchema.Proofs.Relation.ClauseNames
import RoleSchema.Proofs.Concept
import RoleSchema.Proofs.Naming.Words
import RoleSchema.Proofs.Naming.Labels
import RoleSchema.Proofs.Text.Template
import RoleSchema.Proofs.Schema.Filenames
import RoleSchema.Proofs.Model.Arrival
import RoleSchema.Proofs.Hierarchy.Converse
import RoleSchema.Proofs.Schema.Selection
import RoleSchema.Proofs.Relation.ExplicitNames
import RoleSchema.Proofs.Data.Merged
import RoleSchema.Proofs.Data.MergedGraph
import RoleSchema.Proofs.Settings.AnyOrder
import RoleSchema.Proofs.Settings.LogPath
import RoleSchema.Proofs.Schema.Players
import RoleSchema.Proofs.Schema.Scope
