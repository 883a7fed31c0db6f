import ClientGen.Client
import ClientGen.CommandLine.Arguments
import ClientGen.CommandLine.Help
import ClientGen.CommandLine.LogFilter
import ClientGen.CommandLine.Run
import ClientGen.Config
import ClientGen.Content
import ClientGen.Decimal.Layout
import ClientGen.Decimal.Shortest
import ClientGen.Dict
import ClientGen.Discriminators
import ClientGen.Disk
import ClientGen.Document
import ClientGen.Document.Resolve
import ClientGen.Document.Shape
import ClientGen.Endpoint
import ClientGen.Endpoint.Code
import ClientGen.Endpoint.OfOperation
import ClientGen.Event
import ClientGen.Failure
import ClientGen.Identifier
import ClientGen.Json
import ClientGen.Json.Number
import ClientGen.Json.Printer
import ClientGen.Json.Reader
import ClientGen.Json.Record
import ClientGen.Main
import ClientGen.NameTable
import ClientGen.NamedEnum
import ClientGen.OperationName
import ClientGen.Options
import ClientGen.Path
import ClientGen.Proofs.CommandLine.Layers
import ClientGen.Proofs.CommandLine.Notice
import ClientGen.Proofs.CommandLine.Outcome
import ClientGen.Proofs.CommandLine.Stages
import ClientGen.Proofs.Content.Spellings
import ClientGen.Proofs.Decimal.Numeral
import ClientGen.Proofs.Decimal.Rounding
import ClientGen.Proofs.Decimal.Shortest
import ClientGen.Proofs.Discriminators.Added
import ClientGen.Proofs.Discriminators.Completion
import ClientGen.Proofs.Discriminators.ImpliedTags
import ClientGen.Proofs.Discriminators.Spelling
import ClientGen.Proofs.Disk.Places
import ClientGen.Proofs.Disk.Saves
import ClientGen.Proofs.Document.Added
import ClientGen.Proofs.Document.Indexed
import ClientGen.Proofs.Document.OlderFormat
import ClientGen.Proofs.Document.Refers
import ClientGen.Proofs.Document.Unreferenced
import ClientGen.Proofs.Endpoint.AllSchemas
import ClientGen.Proofs.Endpoint.AnyWord
import ClientGen.Proofs.Endpoint.Arguments
import ClientGen.Proofs.Endpoint.Code
import ClientGen.Proofs.Endpoint.Filtered
import ClientGen.Proofs.Endpoint.Mirrors
import ClientGen.Proofs.Endpoint.Overrides
import ClientGen.Proofs.Endpoint.QueryCalls
import ClientGen.Proofs.Endpoint.Sent
import ClientGen.Proofs.Endpoint.Wishes
import ClientGen.Proofs.Json.Parts
import ClientGen.Proofs.Json.Printed
import ClientGen.Proofs.Json.Quoted
import ClientGen.Proofs.Lists
import ClientGen.Proofs.Names.Bindings
import ClientGen.Proofs.Names.Forms
import ClientGen.Proofs.Names.Functions
import ClientGen.Proofs.Names.HandedOut
import ClientGen.Proofs.Names.ModuleNames
import ClientGen.Proofs.Names.Repeats
import ClientGen.Proofs.Names.Tables
import ClientGen.Proofs.Names.TypeRequests
import ClientGen.Proofs.Query.Pieces
import ClientGen.Proofs.Query.Reading
import ClientGen.Proofs.Query.Spread
import ClientGen.Proofs.Query.WellFormed
import ClientGen.Proofs.Reference.Addressable
import ClientGen.Proofs.Reference.Components
import ClientGen.Proofs.Reference.Segments
import ClientGen.Proofs.Run
import ClientGen.Proofs.Run.Mirrors
import ClientGen.Proofs.Run.Settles
import ClientGen.Proofs.Schema.Inside
import ClientGen.Proofs.Servers.DefaultUrl
import ClientGen.Proofs.Template.Parts
import ClientGen.Proofs.Template.Replace
import ClientGen.Proofs.Template.Scan
import ClientGen.Proofs.Template.Values
import ClientGen.Proofs.Text.CaseClasses
import ClientGen.Proofs.Text.IdentifierTable
import ClientGen.Proofs.Text.Occurs
import ClientGen.Proofs.Text.Percent
import ClientGen.Proofs.Text.Split
import ClientGen.Proofs.Text.Utf8
import ClientGen.Proofs.Text.Words
import ClientGen.Proofs.TypeText.DocComments
import ClientGen.Proofs.TypeText.Grouping
import ClientGen.Proofs.TypeText.KeepsGrouping
import ClientGen.Proofs.TypeText.Lexing
import ClientGen.Proofs.TypeText.Literals
import ClientGen.Proofs.TypeText.NameWords
import ClientGen.Proofs.TypeText.NullText
import ClientGen.Proofs.TypeText.Proper
import ClientGen.Proofs.TypeText.Reached
import ClientGen.Proofs.TypeText.Reading
import ClientGen.Proofs.TypeText.RoundTrip
import ClientGen.Proofs.TypeText.Rows
import ClientGen.Proofs.TypeText.Shape
import ClientGen.Proofs.TypeText.Spelling
import ClientGen.Proofs.TypeText.Words
import ClientGen.Proofs.Typing.Again
import ClientGen.Proofs.Typing.AnyWord
import ClientGen.Proofs.Typing.Closed
import ClientGen.Proofs.Typing.Ends
import ClientGen.Proofs.Typing.EnumDispatch
import ClientGen.Proofs.Typing.EnumValues
import ClientGen.Proofs.Typing.Fallback
import ClientGen.Proofs.Typing.Growth
import ClientGen.Proofs.Typing.Inherited
import ClientGen.Proofs.Typing.Inlines
import ClientGen.Proofs.Typing.Law
import ClientGen.Proofs.Typing.MemberNames
import ClientGen.Proofs.Typing.Members
import ClientGen.Proofs.Typing.MergedViews
import ClientGen.Proofs.Typing.Mirrors
import ClientGen.Proofs.Typing.Naming
import ClientGen.Proofs.Typing.NullOnce
import ClientGen.Proofs.Typing.Nullable
import ClientGen.Proofs.Typing.Outline
import ClientGen.Proofs.Typing.Pieces
import ClientGen.Proofs.Typing.Repeat
import ClientGen.Proofs.Typing.Settling
import ClientGen.Proofs.Typing.SubtypeUnion
import ClientGen.Proofs.Typing.Terminates
import ClientGen.Proofs.Typing.TypeNames
import ClientGen.Proofs.Typing.ViewMembers
import ClientGen.Proofs.Typing.WholeRun
import ClientGen.Proofs.ViewFlags.Ends
import ClientGen.Proofs.ViewFlags.Exact
import ClientGen.Proofs.ViewFlags.Found
import ClientGen.Proofs.ViewFlags.Inside
import ClientGen.Proofs.ViewFlags.Search
import ClientGen.Proofs.Yaml.ToJson
import ClientGen.Query
import ClientGen.Reference
import ClientGen.Schema
import ClientGen.Schema.Shape
import ClientGen.Servers
import ClientGen.Session
import ClientGen.Source
import ClientGen.SupportCode
import ClientGen.Template
import ClientGen.Text.Blank
import ClientGen.Text.Casing
import ClientGen.Text.Casing.Table
import ClientGen.Text.CodeRange
import ClientGen.Text.Hex
import ClientGen.Text.Letter
import ClientGen.Text.Percent
import ClientGen.Text.Quoted
import ClientGen.Text.Utf8
import ClientGen.Text.Visible
import ClientGen.Text.Words
import ClientGen.Toml
import ClientGen.TypeScript.Doc
import ClientGen.TypeScript.Expr
import ClientGen.TypeScript.Module
import ClientGen.TypeScript.TypeExpr
import ClientGen.Typing
import ClientGen.ViewFlags
import ClientGen.Yaml
import ClientGen.Yaml.Cursor
import ClientGen.Yaml.Node
import ClientGen.Yaml.Scalar
import ClientGen.Yaml.ScalarText
import ClientGen.Yaml.Token
import ClientGen.Yaml.TokenStream
