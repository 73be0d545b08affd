import ClientForge.Client.Basic
import ClientForge.Client.Mock
import ClientForge.Client.Query
import ClientForge.Code.Basic
import ClientForge.Code.Literal
import ClientForge.Code.Printer
import ClientForge.CommandLine.Arguments
import ClientForge.CommandLine.Run
import ClientForge.Config.Basic
import ClientForge.Config.Reading
import ClientForge.Decimal.Binary64
import ClientForge.Decimal.Shortest
import ClientForge.Document.Basic
import ClientForge.Document.Decode
import ClientForge.Document.Loading
import ClientForge.Document.Node
import ClientForge.Document.Reading
import ClientForge.Document.Schema
import ClientForge.Document.View
import ClientForge.Endpoint.Basic
import ClientForge.Endpoint.Extraction
import ClientForge.Endpoint.Method
import ClientForge.Endpoint.Pruning
import ClientForge.Endpoint.Route
import ClientForge.Failure
import ClientForge.Files.FileSet
import ClientForge.Files.FileTree
import ClientForge.Files.Path
import ClientForge.Json.Basic
import ClientForge.Json.Number
import ClientForge.Json.Reader
import ClientForge.Log.Basic
import ClientForge.Log.Extraction
import ClientForge.Log.Filter
import ClientForge.Log.Generation
import ClientForge.Main
import ClientForge.Model.Basic
import ClientForge.Model.Graph
import ClientForge.Model.OfDocument
import ClientForge.Model.OfSchema
import ClientForge.Model.Reach
import ClientForge.Model.Resolution
import ClientForge.Naming.Claims
import ClientForge.Naming.Identifier
import ClientForge.Naming.Words
import ClientForge.Ordered.Names
import ClientForge.Ordered.Table
import ClientForge.Proofs.Client.Address
import ClientForge.Proofs.Code.Comments
import ClientForge.Proofs.Code.RawLiteral
import ClientForge.Proofs.Code.TextLiteral
import ClientForge.Proofs.Document.Decoding
import ClientForge.Proofs.Document.MemberOrder
import ClientForge.Proofs.Document.References
import ClientForge.Proofs.Document.Reordering
import ClientForge.Proofs.Document.Views
import ClientForge.Proofs.Endpoints.Appending
import ClientForge.Proofs.Endpoints.Binding
import ClientForge.Proofs.Endpoints.Extraction
import ClientForge.Proofs.Endpoints.Methods
import ClientForge.Proofs.Endpoints.RouteText
import ClientForge.Proofs.Files.Paths
import ClientForge.Proofs.Files.Places
import ClientForge.Proofs.Files.Writing
import ClientForge.Proofs.Graph.Alias
import ClientForge.Proofs.Graph.AliasEnds
import ClientForge.Proofs.Graph.Insertion
import ClientForge.Proofs.Graph.Lookup
import ClientForge.Proofs.Graph.Reach
import ClientForge.Proofs.Hoisting.Building
import ClientForge.Proofs.Hoisting.Definitions
import ClientForge.Proofs.Hoisting.Description
import ClientForge.Proofs.Hoisting.Document
import ClientForge.Proofs.Hoisting.Endpoints
import ClientForge.Proofs.Hoisting.Founded
import ClientForge.Proofs.Hoisting.Growth
import ClientForge.Proofs.Hoisting.InlineShapes
import ClientForge.Proofs.Hoisting.Names
import ClientForge.Proofs.Hoisting.Origin
import ClientForge.Proofs.Hoisting.Readings
import ClientForge.Proofs.Json.Trees
import ClientForge.Proofs.Mock.Answers
import ClientForge.Proofs.Mock.Fixtures
import ClientForge.Proofs.Mock.HappyPath
import ClientForge.Proofs.Mock.Lookup
import ClientForge.Proofs.Mock.OwnTemplate
import ClientForge.Proofs.Mock.RouteMatch
import ClientForge.Proofs.Mock.Samples
import ClientForge.Proofs.Mock.Specificity
import ClientForge.Proofs.Models.AliasExpansion
import ClientForge.Proofs.Models.Boxing
import ClientForge.Proofs.Models.ByValue
import ClientForge.Proofs.Models.Constants
import ClientForge.Proofs.Models.Descriptions
import ClientForge.Proofs.Models.Embedding
import ClientForge.Proofs.Models.Enumerations
import ClientForge.Proofs.Models.Items
import ClientForge.Proofs.Models.References
import ClientForge.Proofs.Models.TypeNames
import ClientForge.Proofs.Models.WellFormed
import ClientForge.Proofs.Models.WireNames
import ClientForge.Proofs.Models.WrittenJson
import ClientForge.Proofs.Naming.CamelCase
import ClientForge.Proofs.Naming.Claiming
import ClientForge.Proofs.Naming.FieldNames
import ClientForge.Proofs.Naming.Fresh
import ClientForge.Proofs.Naming.Legal
import ClientForge.Proofs.Naming.Letters
import ClientForge.Proofs.Naming.RawForms
import ClientForge.Proofs.Naming.Scopes
import ClientForge.Proofs.Naming.Shape
import ClientForge.Proofs.Naming.SnakeCase
import ClientForge.Proofs.Naming.TypeShape
import ClientForge.Proofs.Ordered.Octets
import ClientForge.Proofs.Ordered.Permutation
import ClientForge.Proofs.Pruning.Agreement
import ClientForge.Proofs.Pruning.Closed
import ClientForge.Proofs.Pruning.Invisible
import ClientForge.Proofs.Pruning.Needed
import ClientForge.Proofs.Request.AliasedTypes
import ClientForge.Proofs.Request.Described
import ClientForge.Proofs.Request.Evaluation
import ClientForge.Proofs.Request.Identifiers
import ClientForge.Proofs.Request.Path
import ClientForge.Proofs.Request.Query
import ClientForge.Proofs.Request.QueryText
import ClientForge.Proofs.Request.ReferredTypes
import ClientForge.Proofs.Request.Sending
import ClientForge.Proofs.Request.WireText
import ClientForge.Proofs.Template.Metadata
import ClientForge.Proofs.Template.Rendering
import ClientForge.Proofs.Text.Casing
import ClientForge.Proofs.Text.Lines
import ClientForge.Proofs.Text.Parts
import ClientForge.Proofs.Text.Utf8
import ClientForge.Script.Basic
import ClientForge.Script.Run
import ClientForge.Sdk.Client
import ClientForge.Sdk.Fixture
import ClientForge.Sdk.Generate
import ClientForge.Sdk.Models
import ClientForge.Sdk.Tests
import ClientForge.Sdk.Types
import ClientForge.Template.Basic
import ClientForge.Template.Embedded
import ClientForge.Template.Set
import ClientForge.Text.Blank
import ClientForge.Text.Casing
import ClientForge.Text.CasingTable
import ClientForge.Text.Digits
import ClientForge.Text.Quoted
import ClientForge.Text.QuotedTable
import ClientForge.Text.Split
import ClientForge.Text.Utf8
import ClientForge.Toml.Basic
import ClientForge.Toml.Reader
import ClientForge.Toml.Scalar
import ClientForge.Toml.Text
import ClientForge.Verification
import ClientForge.Yaml.Composer
import ClientForge.Yaml.Cursor
import ClientForge.Yaml.Folding
import ClientForge.Yaml.Lexer
import ClientForge.Yaml.Scalar
import ClientForge.Yaml.Token
