import AnnotationQuery.Compiled.Basic
import AnnotationQuery.Compiled.Condition
import AnnotationQuery.Compiled.Fingerprint
import AnnotationQuery.Compiled.Generation
import AnnotationQuery.Compiled.Mutation
import AnnotationQuery.Compiled.Output
import AnnotationQuery.Compiled.Parameter
import AnnotationQuery.Compiled.Plan
import AnnotationQuery.Compiled.Term
import AnnotationQuery.Config
import AnnotationQuery.Config.Json
import AnnotationQuery.Corpus
import AnnotationQuery.Digest.Sha1
import AnnotationQuery.Error
import AnnotationQuery.File.Load
import AnnotationQuery.File.Tree
import AnnotationQuery.Filter.Basic
import AnnotationQuery.Filter.Json
import AnnotationQuery.Filter.Validity
import AnnotationQuery.Hierarchy.Basic
import AnnotationQuery.Hierarchy.Json
import AnnotationQuery.Hierarchy.Lookup
import AnnotationQuery.Json.Basic
import AnnotationQuery.Json.Decoder
import AnnotationQuery.Json.Location
import AnnotationQuery.Json.Numeral
import AnnotationQuery.Json.Source
import AnnotationQuery.Node.Basic
import AnnotationQuery.Node.Collected
import AnnotationQuery.Node.Order
import AnnotationQuery.Node.Pattern
import AnnotationQuery.Number.Binary64
import AnnotationQuery.Number.Reader
import AnnotationQuery.Number.Shortest
import AnnotationQuery.Number.Style
import AnnotationQuery.Partition.Basic
import AnnotationQuery.Partition.Parallel
import AnnotationQuery.Partition.Sequential
import AnnotationQuery.Partition.Store
import AnnotationQuery.Path.Basic
import AnnotationQuery.Path.Resolve
import AnnotationQuery.Proofs.AddedCondition
import AnnotationQuery.Proofs.AddedNode
import AnnotationQuery.Proofs.AliasIdentity
import AnnotationQuery.Proofs.AppendedRows
import AnnotationQuery.Proofs.AssignedProperties
import AnnotationQuery.Proofs.BindingInTurn
import AnnotationQuery.Proofs.BindingOrder
import AnnotationQuery.Proofs.BuiltQuery
import AnnotationQuery.Proofs.ChainedPositions
import AnnotationQuery.Proofs.Compilation
import AnnotationQuery.Proofs.Conditions
import AnnotationQuery.Proofs.Containment
import AnnotationQuery.Proofs.Counter
import AnnotationQuery.Proofs.CsvRecords
import AnnotationQuery.Proofs.DeclaredNames
import AnnotationQuery.Proofs.Dependency
import AnnotationQuery.Proofs.FilterOrder
import AnnotationQuery.Proofs.Graph
import AnnotationQuery.Proofs.JsonNumerals
import AnnotationQuery.Proofs.JsonText
import AnnotationQuery.Proofs.ListedSides
import AnnotationQuery.Proofs.Lists
import AnnotationQuery.Proofs.LiteralGrammar
import AnnotationQuery.Proofs.LiteralRoundTrip
import AnnotationQuery.Proofs.LiteralTokens
import AnnotationQuery.Proofs.Meaning
import AnnotationQuery.Proofs.MergedTable
import AnnotationQuery.Proofs.Mirror
import AnnotationQuery.Proofs.NumberText
import AnnotationQuery.Proofs.Outputs
import AnnotationQuery.Proofs.Parallel
import AnnotationQuery.Proofs.Parameters
import AnnotationQuery.Proofs.PartitionFilter
import AnnotationQuery.Proofs.PartitionRows
import AnnotationQuery.Proofs.PartitionStatement
import AnnotationQuery.Proofs.PartitionedRun
import AnnotationQuery.Proofs.PathGrammar
import AnnotationQuery.Proofs.Pieces
import AnnotationQuery.Proofs.Plan
import AnnotationQuery.Proofs.PlanRows
import AnnotationQuery.Proofs.QuotedNames
import AnnotationQuery.Proofs.Records
import AnnotationQuery.Proofs.Relisting
import AnnotationQuery.Proofs.Renumbering
import AnnotationQuery.Proofs.RepeatedEdge
import AnnotationQuery.Proofs.Resolution
import AnnotationQuery.Proofs.Results
import AnnotationQuery.Proofs.Rounding
import AnnotationQuery.Proofs.SavedFile
import AnnotationQuery.Proofs.Scope
import AnnotationQuery.Proofs.Sequential
import AnnotationQuery.Proofs.Signature
import AnnotationQuery.Proofs.SingleLine
import AnnotationQuery.Proofs.SortKeys
import AnnotationQuery.Proofs.Stages
import AnnotationQuery.Proofs.StatementForm
import AnnotationQuery.Proofs.StatementLines
import AnnotationQuery.Proofs.StoredTable
import AnnotationQuery.Proofs.Substitution
import AnnotationQuery.Proofs.TierChain
import AnnotationQuery.Proofs.TierDistance
import AnnotationQuery.Proofs.TierOrder
import AnnotationQuery.Proofs.Uses
import AnnotationQuery.Proofs.ValueJson
import AnnotationQuery.Proofs.WellScoped
import AnnotationQuery.Proofs.Worklist
import AnnotationQuery.Proofs.WrittenNames
import AnnotationQuery.Query.Basic
import AnnotationQuery.Query.Json
import AnnotationQuery.Reference
import AnnotationQuery.Regex.Basic
import AnnotationQuery.Regex.Beginning
import AnnotationQuery.Regex.Encoding
import AnnotationQuery.Regex.Layout
import AnnotationQuery.Regex.Meaning
import AnnotationQuery.Regex.Normal
import AnnotationQuery.Regex.Property
import AnnotationQuery.Regex.Reader.Atom
import AnnotationQuery.Regex.Reader.Pattern
import AnnotationQuery.Regex.Reader.Set
import AnnotationQuery.Regex.Room
import AnnotationQuery.Regex.Validity
import AnnotationQuery.Statement.Alias
import AnnotationQuery.Statement.Basic
import AnnotationQuery.Statement.Text
import AnnotationQuery.Table.Basic
import AnnotationQuery.Table.Csv
import AnnotationQuery.Table.Json
import AnnotationQuery.Text.Blank
import AnnotationQuery.Text.Hexadecimal
import AnnotationQuery.Text.Identifier
import AnnotationQuery.Text.Joined
import AnnotationQuery.Text.Letter
import AnnotationQuery.Unicode.Age
import AnnotationQuery.Unicode.Boundary
import AnnotationQuery.Unicode.Category
import AnnotationQuery.Unicode.CodeSet
import AnnotationQuery.Unicode.Folding
import AnnotationQuery.Unicode.Listed
import AnnotationQuery.Unicode.Property
import AnnotationQuery.Unicode.Script
import AnnotationQuery.Value.Basic
import AnnotationQuery.Value.Json
import AnnotationQuery.Value.Literal
import AnnotationQuery.Value.LiteralReader
