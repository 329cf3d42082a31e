import RouteAtlas.Api.Controller
import RouteAtlas.Api.Defaults
import RouteAtlas.Api.FromData
import RouteAtlas.Api.TypeShape
import RouteAtlas.Collection.SampleCollection
import RouteAtlas.Collection.SampleRequest
import RouteAtlas.CommandLine.Arguments
import RouteAtlas.CommandLine.Command
import RouteAtlas.CommandLine.Help
import RouteAtlas.CommandLine.Run
import RouteAtlas.CommandLine.Session
import RouteAtlas.Document.Checked
import RouteAtlas.Document.Export
import RouteAtlas.Document.Json
import RouteAtlas.Document.Literal
import RouteAtlas.Document.Moment
import RouteAtlas.Document.Toml.Atom
import RouteAtlas.Document.Toml.Quoted
import RouteAtlas.Document.Toml.Read
import RouteAtlas.Document.Toml.Reading
import RouteAtlas.Document.Toml.Table
import RouteAtlas.Document.Value
import RouteAtlas.Document.Yaml.Cursor
import RouteAtlas.Document.Yaml.Look
import RouteAtlas.Document.Yaml.Node
import RouteAtlas.Document.Yaml.Read
import RouteAtlas.Document.Yaml.Scalar
import RouteAtlas.Document.Yaml.ScalarText
import RouteAtlas.Document.Yaml.Token
import RouteAtlas.Document.Yaml.TokenStream
import RouteAtlas.Document.Yaml.Write
import RouteAtlas.Log
import RouteAtlas.Main
import RouteAtlas.Mock.Generator
import RouteAtlas.Mock.Source
import RouteAtlas.Number.Binary
import RouteAtlas.Number.Decimal
import RouteAtlas.Number.FloatText
import RouteAtlas.Number.NumberText
import RouteAtlas.OpenApi.ApiDocument
import RouteAtlas.OpenApi.Operation
import RouteAtlas.Options.Load
import RouteAtlas.Options.Options
import RouteAtlas.Options.Resolve
import RouteAtlas.Project.Environment
import RouteAtlas.Project.FileTree
import RouteAtlas.Project.Layout
import RouteAtlas.Project.Metadata
import RouteAtlas.Project.Path
import RouteAtlas.Proofs.Collection.RouteViews
import RouteAtlas.Proofs.Collection.SampleFits
import RouteAtlas.Proofs.CommandLine.CommandRun
import RouteAtlas.Proofs.CommandLine.MockAgreement
import RouteAtlas.Proofs.CommandLine.MockRun
import RouteAtlas.Proofs.CommandLine.ServiceAgreement
import RouteAtlas.Proofs.Document.OrderedMap
import RouteAtlas.Proofs.Document.Writing
import RouteAtlas.Proofs.Failing
import RouteAtlas.Proofs.Fallible
import RouteAtlas.Proofs.Mock.Conforming
import RouteAtlas.Proofs.Mock.Draws
import RouteAtlas.Proofs.Mock.MemberValues
import RouteAtlas.Proofs.Mock.SchemaAgreement
import RouteAtlas.Proofs.Mock.Seeding
import RouteAtlas.Proofs.Mock.Servable
import RouteAtlas.Proofs.Oblivious
import RouteAtlas.Proofs.OpenApi.AnnotationOrder
import RouteAtlas.Proofs.OpenApi.DescribedPieces
import RouteAtlas.Proofs.OpenApi.DescribedRoute
import RouteAtlas.Proofs.OpenApi.Describing
import RouteAtlas.Proofs.OpenApi.DocumentPaths
import RouteAtlas.Proofs.OpenApi.QueryProperties
import RouteAtlas.Proofs.OpenApi.ReferenceClosure
import RouteAtlas.Proofs.Options.Resolving
import RouteAtlas.Proofs.Project.PathText
import RouteAtlas.Proofs.Reflect.Ancestry
import RouteAtlas.Proofs.Reflect.EnumerationValues
import RouteAtlas.Proofs.Reflect.Equations
import RouteAtlas.Proofs.Reflect.Expansion
import RouteAtlas.Proofs.Reflect.FieldSite
import RouteAtlas.Proofs.Reflect.LikeFields
import RouteAtlas.Proofs.Reflect.Linearization
import RouteAtlas.Proofs.Reflect.LiteralChoice
import RouteAtlas.Proofs.Reflect.MandatoryFields
import RouteAtlas.Proofs.Reflect.Optionality
import RouteAtlas.Proofs.Reflect.QuotedMember
import RouteAtlas.Proofs.Reflect.ReflectFaults
import RouteAtlas.Proofs.Reflect.ReflectorMarks
import RouteAtlas.Proofs.Reflect.SettledRegistry
import RouteAtlas.Proofs.Reflect.SettledSchema
import RouteAtlas.Proofs.Reflect.UnfoldedName
import RouteAtlas.Proofs.Reflect.UnionSpelling
import RouteAtlas.Proofs.Reflect.WellFormedShape
import RouteAtlas.Proofs.Routing.Filling
import RouteAtlas.Proofs.Routing.FirstMatch
import RouteAtlas.Proofs.Routing.JoinedPath
import RouteAtlas.Proofs.Routing.Placeholder
import RouteAtlas.Proofs.Scan.HandlerParameters
import RouteAtlas.Proofs.Scan.HintParts
import RouteAtlas.Proofs.Scan.MarkerPlace
import RouteAtlas.Proofs.Scan.Mounting
import RouteAtlas.Proofs.Scan.NestedMounts
import RouteAtlas.Proofs.Scan.PathBinding
import RouteAtlas.Proofs.Scan.QuotedHint
import RouteAtlas.Proofs.Scan.RouteSites
import RouteAtlas.Proofs.Scan.ScanFaults
import RouteAtlas.Proofs.Scan.ServedRoute
import RouteAtlas.Proofs.Scan.UnfoldedAlias
import RouteAtlas.Proofs.Scan.UnreadableSource
import RouteAtlas.Proofs.Schema.Builds
import RouteAtlas.Proofs.Schema.Components
import RouteAtlas.Proofs.Schema.Registration
import RouteAtlas.Proofs.Schema.Written
import RouteAtlas.Proofs.Server.DocumentRequests
import RouteAtlas.Proofs.Server.MockAnswer
import RouteAtlas.Proofs.Server.MockPrefix
import RouteAtlas.Proofs.Server.QuietRequests
import RouteAtlas.Proofs.Server.StartedService
import RouteAtlas.Proofs.SteadyWork
import RouteAtlas.Proofs.Syntax.ExprWeight
import RouteAtlas.Proofs.Syntax.ParameterList
import RouteAtlas.Proofs.Syntax.Payment
import RouteAtlas.Proofs.Syntax.PlainName
import RouteAtlas.Proofs.Syntax.PrintedName
import RouteAtlas.Proofs.Syntax.PrintedNumber
import RouteAtlas.Proofs.Syntax.QuotedText
import RouteAtlas.Proofs.Syntax.ReadSignature
import RouteAtlas.Proofs.Syntax.ScanCost
import RouteAtlas.Proofs.Text.Digits
import RouteAtlas.Proofs.Text.LetterCase
import RouteAtlas.Reflect.ClassIndex
import RouteAtlas.Reflect.Field
import RouteAtlas.Reflect.Reflection
import RouteAtlas.Reflect.Reflector
import RouteAtlas.Reflect.TypeForm
import RouteAtlas.Routing.RoutePath
import RouteAtlas.Routing.RouteTable
import RouteAtlas.Scan.Binding
import RouteAtlas.Scan.Handler
import RouteAtlas.Scan.Mount
import RouteAtlas.Scan.ProjectScan
import RouteAtlas.Scan.RouterDecl
import RouteAtlas.Scan.SourceFile
import RouteAtlas.Schema.Registry
import RouteAtlas.Schema.TypeSchema
import RouteAtlas.Server.Address
import RouteAtlas.Server.Answer
import RouteAtlas.Server.DocsPage
import RouteAtlas.Server.Exchange
import RouteAtlas.Server.PageTemplate
import RouteAtlas.Server.Service
import RouteAtlas.Server.Start
import RouteAtlas.Syntax.Escape
import RouteAtlas.Syntax.Expr
import RouteAtlas.Syntax.ExprGrammar
import RouteAtlas.Syntax.Formatted
import RouteAtlas.Syntax.Lexer
import RouteAtlas.Syntax.Number
import RouteAtlas.Syntax.PatternGrammar
import RouteAtlas.Syntax.Printer
import RouteAtlas.Syntax.Quoting
import RouteAtlas.Syntax.Reading
import RouteAtlas.Syntax.Source
import RouteAtlas.Syntax.Stmt
import RouteAtlas.Syntax.StmtGrammar
import RouteAtlas.Syntax.Token
import RouteAtlas.Text.Base64
import RouteAtlas.Text.CharClass
import RouteAtlas.Text.CharName
import RouteAtlas.Text.CharNames.Aliases
import RouteAtlas.Text.CharNames.From0000
import RouteAtlas.Text.CharNames.From16000
import RouteAtlas.Text.CharNames.From1F00
import RouteAtlas.Text.CharNames.FromA000
import RouteAtlas.Text.CharTable
import RouteAtlas.Text.CodeRange
import RouteAtlas.Text.Compatible
import RouteAtlas.Text.CompatibleTable
import RouteAtlas.Text.Cut
import RouteAtlas.Text.Digits
import RouteAtlas.Text.LetterCase
import RouteAtlas.Text.LetterCaseTable
import RouteAtlas.Text.Markup
import RouteAtlas.Text.Pattern
import RouteAtlas.Text.Quoted
import RouteAtlas.Text.Utf8
import RouteAtlas.Proofs.Project.DirectoryWay
import RouteAtlas.Proofs.Project.SourceChoice
import RouteAtlas.Proofs.Document.Exporting
import RouteAtlas.Proofs.Project.MetadataFinding
import RouteAtlas.Proofs.Options.LoadedOptions
import RouteAtlas.Proofs.Server.FilledPage
import RouteAtlas.Proofs.Options.SingleSource
