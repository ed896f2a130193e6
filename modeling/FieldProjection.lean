import FieldProjection.CommandLine.Arguments
import FieldProjection.CommandLine.Command
import FieldProjection.Datamodel.Declaration
import FieldProjection.Datamodel.Document
import FieldProjection.Datamodel.Generate
import FieldProjection.Decimal.Shortest
import FieldProjection.Emission
import FieldProjection.Entries
import FieldProjection.Error
import FieldProjection.Files.Path
import FieldProjection.Files.Script
import FieldProjection.Files.Tree
import FieldProjection.Json.Basic
import FieldProjection.Json.Fault
import FieldProjection.Json.Number
import FieldProjection.Json.Reader
import FieldProjection.Json.Shape
import FieldProjection.Json.Skip
import FieldProjection.Json.Writer
import FieldProjection.Log
import FieldProjection.OrderedMap
import FieldProjection.Projection.Build
import FieldProjection.Projection.Filter
import FieldProjection.Projection.FilterLog
import FieldProjection.Projection.Inspect
import FieldProjection.Projection.Layout
import FieldProjection.Projection.Merge
import FieldProjection.Projection.Options
import FieldProjection.Projection.Projector
import FieldProjection.Proofs.Datamodel.Decoding
import FieldProjection.Proofs.Datamodel.Generation
import FieldProjection.Proofs.Datamodel.Layouts
import FieldProjection.Proofs.Emission.Plan
import FieldProjection.Proofs.Emission.Rejection
import FieldProjection.Proofs.Entries.Insertion
import FieldProjection.Proofs.Error.Sharing
import FieldProjection.Proofs.Files.Contents
import FieldProjection.Proofs.Files.Writing
import FieldProjection.Proofs.Filter.Account
import FieldProjection.Proofs.Filter.Alias
import FieldProjection.Proofs.Filter.Arguments
import FieldProjection.Proofs.Filter.Defaults
import FieldProjection.Proofs.Filter.Exclusion
import FieldProjection.Proofs.Filter.Grant
import FieldProjection.Proofs.Filter.Independence
import FieldProjection.Proofs.Filter.Monotone
import FieldProjection.Proofs.Filter.Navigation
import FieldProjection.Proofs.Filter.Report
import FieldProjection.Proofs.Filter.Settled
import FieldProjection.Proofs.Filter.Step
import FieldProjection.Proofs.Filter.Survival
import FieldProjection.Proofs.Json.Distinct
import FieldProjection.Proofs.Json.Laws
import FieldProjection.Proofs.Json.Reads
import FieldProjection.Proofs.Json.Record
import FieldProjection.Proofs.Json.StringLiteral
import FieldProjection.Proofs.Json.Written
import FieldProjection.Proofs.Layout.Erasure
import FieldProjection.Proofs.Layout.Selection
import FieldProjection.Proofs.Loops
import FieldProjection.Proofs.Merge.Laws
import FieldProjection.Proofs.Merge.Override
import FieldProjection.Proofs.Options.Entry
import FieldProjection.Proofs.Options.Fixed
import FieldProjection.Proofs.Request.Coverage
import FieldProjection.Proofs.Request.Following
import FieldProjection.Proofs.Request.Paths
import FieldProjection.Proofs.Request.Skeleton
import FieldProjection.Proofs.ResolveInfo.Distinct
import FieldProjection.Proofs.ResolveInfo.RoundTrip
import FieldProjection.Proofs.Schema.AliasList
import FieldProjection.Proofs.Schema.Artifact
import FieldProjection.Proofs.Schema.History
import FieldProjection.Proofs.Schema.Resolution
import FieldProjection.Proofs.Source.Builder
import FieldProjection.Proofs.Source.Enumeration
import FieldProjection.Proofs.Source.File
import FieldProjection.Proofs.Source.Identifier
import FieldProjection.Proofs.Source.Lexeme
import FieldProjection.Proofs.Source.StringLiteral
import FieldProjection.Proofs.Source.Variants
import FieldProjection.Proofs.Text.Occurrence
import FieldProjection.ResolveInfo.Basic
import FieldProjection.ResolveInfo.Codec
import FieldProjection.Schema.AliasList
import FieldProjection.Schema.Basic
import FieldProjection.Schema.Codec
import FieldProjection.Schema.Field
import FieldProjection.Source.Identifier
import FieldProjection.Source.Literal
import FieldProjection.Source.Schema
import FieldProjection.Source.Token
import FieldProjection.Text.Outline
import FieldProjection.Text.Property
import FieldProjection.Text.Property.GraphemeExtend
import FieldProjection.Text.Property.IdentifierContinue
import FieldProjection.Text.Property.IdentifierStart
import FieldProjection.Text.Property.Unprintable
import FieldProjection.Text.Quoted
import FieldProjection.Text.Search
import FieldProjection.Main
