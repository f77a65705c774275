import ChartSchema.Command.Arguments
import ChartSchema.Command.Basic
import ChartSchema.Command.Diff
import ChartSchema.Command.Failure
import ChartSchema.Command.Generate
import ChartSchema.Command.Init
import ChartSchema.Command.Inspect
import ChartSchema.Command.Program
import ChartSchema.Command.Project
import ChartSchema.Command.Validate
import ChartSchema.Compatibility.Analysis
import ChartSchema.Compatibility.Change
import ChartSchema.Compatibility.Policy
import ChartSchema.Compatibility.Property
import ChartSchema.Compatibility.View
import ChartSchema.Crd.Definition
import ChartSchema.Crd.Error
import ChartSchema.Crd.Generate
import ChartSchema.Crd.Marker
import ChartSchema.Crd.Node
import ChartSchema.Crd.Options
import ChartSchema.Crd.Reader
import ChartSchema.Files.Disk
import ChartSchema.Files.Host
import ChartSchema.Files.Path
import ChartSchema.Json.Basic
import ChartSchema.Json.Pointer
import ChartSchema.Json.Printer
import ChartSchema.Json.Reader
import ChartSchema.Json.Shape
import ChartSchema.JsonSchema.Dialect
import ChartSchema.JsonSchema.Form
import ChartSchema.JsonSchema.Format
import ChartSchema.JsonSchema.Keyword
import ChartSchema.JsonSchema.OpenApi
import ChartSchema.JsonSchema.Reference
import ChartSchema.JsonSchema.Standard
import ChartSchema.JsonSchema.Validator
import ChartSchema.JsonSchema.Violation
import ChartSchema.Main
import ChartSchema.Net.Address
import ChartSchema.Net.Email
import ChartSchema.Net.InternationalName
import ChartSchema.Net.Punycode
import ChartSchema.Net.Uri
import ChartSchema.Net.UriTemplate
import ChartSchema.Number.Basic
import ChartSchema.Number.Binary64
import ChartSchema.Number.Layout
import ChartSchema.Number.Shortest
import ChartSchema.Proofs.ByKey
import ChartSchema.Proofs.Command.Declaration
import ChartSchema.Proofs.Command.Generation
import ChartSchema.Proofs.Command.Readback
import ChartSchema.Proofs.Compatibility.Additive
import ChartSchema.Proofs.Compatibility.CountBounds
import ChartSchema.Proofs.Compatibility.Evolution
import ChartSchema.Proofs.Compatibility.FieldChanges
import ChartSchema.Proofs.Compatibility.Mirror
import ChartSchema.Proofs.Compatibility.Reflexive
import ChartSchema.Proofs.Compatibility.Relaxation
import ChartSchema.Proofs.Compatibility.Reordering
import ChartSchema.Proofs.Compatibility.Soundness
import ChartSchema.Proofs.Compatibility.Unnoticed
import ChartSchema.Proofs.Crd.Defaults
import ChartSchema.Proofs.Crd.Expansion
import ChartSchema.Proofs.Crd.OutlineNode
import ChartSchema.Proofs.Crd.RequiredOrder
import ChartSchema.Proofs.Crd.Structural
import ChartSchema.Proofs.Crd.UnknownGate
import ChartSchema.Proofs.JsonSchema.ClosedObjects
import ChartSchema.Proofs.JsonSchema.Conformance
import ChartSchema.Proofs.JsonSchema.Nullable
import ChartSchema.Proofs.JsonSchema.Refusals
import ChartSchema.Proofs.Schema.BlockDocument
import ChartSchema.Proofs.Schema.CommentKinds
import ChartSchema.Proofs.Schema.FieldPaths
import ChartSchema.Proofs.Schema.Identifiers
import ChartSchema.Proofs.Schema.LabelledLines
import ChartSchema.Proofs.Schema.OwnerDocumentation
import ChartSchema.Proofs.Schema.PrintedTypes
import ChartSchema.Proofs.Schema.QuotedKeys
import ChartSchema.Proofs.Schema.Readable
import ChartSchema.Proofs.Schema.Reordering
import ChartSchema.Proofs.Schema.ScanDocument
import ChartSchema.Proofs.Schema.ScanLine
import ChartSchema.Proofs.Schema.Sites
import ChartSchema.Proofs.Schema.Skeleton
import ChartSchema.Proofs.Schema.StructFields
import ChartSchema.Proofs.Schema.StructTree
import ChartSchema.Proofs.Schema.TargetNames
import ChartSchema.Regex.Basic
import ChartSchema.Regex.CharSet
import ChartSchema.Regex.Class
import ChartSchema.Regex.Match
import ChartSchema.Regex.Parser
import ChartSchema.Regex.Plain
import ChartSchema.Regex.Plan
import ChartSchema.Regex.Size
import ChartSchema.Report.Changes
import ChartSchema.Report.Findings
import ChartSchema.Report.Layout
import ChartSchema.Report.Structs
import ChartSchema.Schema.ApiVersion
import ChartSchema.Schema.Basic
import ChartSchema.Schema.Census
import ChartSchema.Schema.Comment
import ChartSchema.Schema.Document
import ChartSchema.Schema.Error
import ChartSchema.Schema.FieldType
import ChartSchema.Schema.Infer
import ChartSchema.Schema.Json
import ChartSchema.Schema.Name
import ChartSchema.Schema.Options
import ChartSchema.Schema.SourceMap
import ChartSchema.Schema.Unknown
import ChartSchema.Text.Alphanumeric
import ChartSchema.Text.Base64
import ChartSchema.Text.Basic
import ChartSchema.Text.Case
import ChartSchema.Text.Moment
import ChartSchema.Text.Timestamp
import ChartSchema.Text.Utf8
import ChartSchema.Unicode.Category
import ChartSchema.Unicode.Folding
import ChartSchema.Unicode.Property
import ChartSchema.Unicode.Script
import ChartSchema.Unicode.Table
import ChartSchema.Yaml.Cursor
import ChartSchema.Yaml.Decode
import ChartSchema.Yaml.Document
import ChartSchema.Yaml.Node
import ChartSchema.Yaml.Printer
import ChartSchema.Yaml.Style
import ChartSchema.Yaml.Token
import ChartSchema.Yaml.Token.Scalar
import ChartSchema.Yaml.Token.Scan
import ChartSchema.Yaml.Value
