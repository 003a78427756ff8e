import TransitKit.Catalogue.Descriptions
import TransitKit.Catalogue.Endpoints
import TransitKit.Catalogue.Mappings
import TransitKit.Catalogue.Models
import TransitKit.Catalogue.Operation
import TransitKit.Client.Address
import TransitKit.Client.Call
import TransitKit.Client.Defaults
import TransitKit.Client.Exchange
import TransitKit.Client.Forms
import TransitKit.Client.Lifetime
import TransitKit.Client.Tour
import TransitKit.Codegen.ClientModule
import TransitKit.Codegen.Description
import TransitKit.Codegen.ModelModule
import TransitKit.Codegen.Operation
import TransitKit.Codegen.Package
import TransitKit.Codegen.SourceFile
import TransitKit.Diagram.ConfigSource
import TransitKit.Diagram.Mermaid
import TransitKit.Digest.Sha1
import TransitKit.Digest.Sha256
import TransitKit.Digest.SipHash
import TransitKit.Drift.Check
import TransitKit.Drift.Command
import TransitKit.Drift.Report
import TransitKit.Drift.Summary
import TransitKit.Fault
import TransitKit.Host.Basic
import TransitKit.Host.Forms
import TransitKit.Http.Headers
import TransitKit.Http.Status
import TransitKit.Json.Access
import TransitKit.Json.Checked
import TransitKit.Json.DecodeError
import TransitKit.Json.Literal
import TransitKit.Json.Reader
import TransitKit.Json.Value
import TransitKit.Json.Writer
import TransitKit.Model.Builder
import TransitKit.Model.Compare
import TransitKit.Model.Form
import TransitKit.Model.Graph
import TransitKit.Model.Pipeline
import TransitKit.Model.Registry
import TransitKit.Model.SetOrder
import TransitKit.Naming.Names
import TransitKit.Naming.Reserved
import TransitKit.Number.FloatText
import TransitKit.Number.Shortest
import TransitKit.Portal.Crawler
import TransitKit.Portal.Request
import TransitKit.Release.Bump
import TransitKit.Release.Command
import TransitKit.Release.ProjectVersion
import TransitKit.Release.Requirement
import TransitKit.Release.Version
import TransitKit.Revision.LineDiff
import TransitKit.Revision.Patch
import TransitKit.Spec.Mappings
import TransitKit.Spec.Processor
import TransitKit.Text.Blank
import TransitKit.Text.CaseMap
import TransitKit.Text.CharSet
import TransitKit.Text.CodePoint
import TransitKit.Text.Digit
import TransitKit.Text.IntLiteral
import TransitKit.Text.Newline
import TransitKit.Text.Pieces
import TransitKit.Text.Printable
import TransitKit.Text.Template
import TransitKit.Text.WordChar
import TransitKit.Time.Civil
import TransitKit.Time.MailDate
import TransitKit.Toml.Reader
import TransitKit.Toml.Value
import TransitKit.Typing.Basic
import TransitKit.Typing.Display
import TransitKit.Typing.EnumClass
import TransitKit.Typing.Expression
import TransitKit.Typing.FieldType
import TransitKit.Typing.Form
import TransitKit.Typing.Reading
import TransitKit.Typing.Views
import TransitKit.Url.Canonical
import TransitKit.Url.Escaping
import TransitKit.Url.Parts
import TransitKit.Url.Percent
import TransitKit.Url.Prepared
import TransitKit.Proofs.CircularBreak
import TransitKit.Proofs.ModelImports
import TransitKit.Proofs.Outcome
import TransitKit.Proofs.AddressTemplates
import TransitKit.Proofs.ResponseModels
import TransitKit.Proofs.GenerationOrder
import TransitKit.Proofs.CallStyles
import TransitKit.Proofs.EnumModules
import TransitKit.Proofs.CycleSearch
import TransitKit.Proofs.Deduplication
import TransitKit.Proofs.ModelDependencies
import TransitKit.Proofs.UnionKeys
import TransitKit.Proofs.AnnotationSyntax
import TransitKit.Proofs.AnnotationTexts
import TransitKit.Proofs.ClassNames
import TransitKit.Proofs.EntityRenaming
import TransitKit.Proofs.ModelBuilding
import TransitKit.Proofs.AnswerDates
import TransitKit.Proofs.CacheDirectives
import TransitKit.Proofs.MethodSignatures
import TransitKit.Proofs.UrlSplitting
import TransitKit.Proofs.RequestAddresses
import TransitKit.Proofs.VersionBumps
import TransitKit.Proofs.PathJoining
import TransitKit.Proofs.TextLiterals
import TransitKit.Proofs.DescriptionLiterals
import TransitKit.Proofs.ConfigTokens
import TransitKit.Proofs.MappingDisplays
import TransitKit.Proofs.ConfigReading
import TransitKit.Proofs.EndpointConfigs
import TransitKit.Proofs.BumpDecision
import TransitKit.Proofs.ChangeCounts
import TransitKit.Proofs.VersionLines
import TransitKit.Proofs.PortalRuns
import TransitKit.Proofs.JsonReadBack
import TransitKit.Proofs.PortalAddresses
import TransitKit.Proofs.SchemaOrder
import TransitKit.Proofs.AnnotationFlattening
import TransitKit.Proofs.DocumentShapes
import TransitKit.Proofs.ClientFiles
import TransitKit.Proofs.AnnotationWriting
import TransitKit.Proofs.ModelWriting
import TransitKit.Proofs.CombinedSchemas
import TransitKit.Proofs.ProcessedSchemas
import TransitKit.Proofs.BuildCompletion
