import TypeCatalog.Answer.Kind
import TypeCatalog.Answer.Listing
import TypeCatalog.Answer.TypeView
import TypeCatalog.Cache.Key
import TypeCatalog.Cache.Store
import TypeCatalog.Command.Arguments
import TypeCatalog.Command.Basic
import TypeCatalog.Command.Markup
import TypeCatalog.Command.Request
import TypeCatalog.Command.Run
import TypeCatalog.Command.TagLiteral
import TypeCatalog.Command.TagStyle
import TypeCatalog.Crash
import TypeCatalog.Describe.Documentation
import TypeCatalog.Describe.Fault
import TypeCatalog.Describe.Member
import TypeCatalog.Describe.Parts
import TypeCatalog.Describe.Type
import TypeCatalog.Digest.Sha256
import TypeCatalog.Encoding.Base64
import TypeCatalog.Files.Path
import TypeCatalog.Files.Tree
import TypeCatalog.Json.Ascii
import TypeCatalog.Json.Printer
import TypeCatalog.Json.Reader
import TypeCatalog.Limits
import TypeCatalog.Log.Event
import TypeCatalog.Log.Level
import TypeCatalog.Log.Output
import TypeCatalog.Main
import TypeCatalog.Metadata.Facts
import TypeCatalog.Metadata.Kinds
import TypeCatalog.Metadata.Member
import TypeCatalog.Metadata.Shorthand
import TypeCatalog.Metadata.TypeDefinition
import TypeCatalog.Metadata.TypeRef
import TypeCatalog.Number.Binary64
import TypeCatalog.Number.FromText
import TypeCatalog.Number.Shortest
import TypeCatalog.Paging.Budget
import TypeCatalog.Paging.Page
import TypeCatalog.Paging.Quantities
import TypeCatalog.Paging.Token
import TypeCatalog.Proofs.Cache.Entries
import TypeCatalog.Proofs.Cache.Executor
import TypeCatalog.Proofs.Cache.KeyText
import TypeCatalog.Proofs.Cache.LazyExpiry
import TypeCatalog.Proofs.Cache.UnderKey
import TypeCatalog.Proofs.Command.ExitStatus
import TypeCatalog.Proofs.Command.ServedPort
import TypeCatalog.Proofs.Describe.NestedTypes
import TypeCatalog.Proofs.Describe.TidyText
import TypeCatalog.Proofs.Describe.UnreadableAttributes
import TypeCatalog.Proofs.Digest.Sha256
import TypeCatalog.Proofs.Encoding.Base64
import TypeCatalog.Proofs.Json.CodePoints
import TypeCatalog.Proofs.Json.Grammar
import TypeCatalog.Proofs.Json.Length
import TypeCatalog.Proofs.Json.NumberText
import TypeCatalog.Proofs.Json.ReadBack
import TypeCatalog.Proofs.Json.ReadValues
import TypeCatalog.Proofs.Json.Record
import TypeCatalog.Proofs.Json.Rendering
import TypeCatalog.Proofs.Json.Unambiguity
import TypeCatalog.Proofs.Metadata.DeclarationOrder
import TypeCatalog.Proofs.Metadata.FullText
import TypeCatalog.Proofs.Metadata.Genuine
import TypeCatalog.Proofs.Metadata.Overflow
import TypeCatalog.Proofs.Metadata.PreOrder
import TypeCatalog.Proofs.Metadata.QualifiedNames
import TypeCatalog.Proofs.Metadata.Redaction
import TypeCatalog.Proofs.Metadata.ShorthandRoundTrip
import TypeCatalog.Proofs.Metadata.Stumbling
import TypeCatalog.Proofs.Metadata.TopLevelPieces
import TypeCatalog.Proofs.Metadata.WellFormedShorthand
import TypeCatalog.Proofs.Metadata.WrittenOut
import TypeCatalog.Proofs.Number.Doubles
import TypeCatalog.Proofs.Number.Rounding
import TypeCatalog.Proofs.Number.ShortestDigits
import TypeCatalog.Proofs.Paging.PageEdges
import TypeCatalog.Proofs.Paging.PageSize
import TypeCatalog.Proofs.Paging.TokenSpelling
import TypeCatalog.Proofs.Query.DocumentedViews
import TypeCatalog.Proofs.Query.Filtering
import TypeCatalog.Proofs.Query.InheritanceWalk
import TypeCatalog.Proofs.Query.ListedType
import TypeCatalog.Proofs.Query.NameResolution
import TypeCatalog.Proofs.Query.OptionEntries
import TypeCatalog.Proofs.Query.Selection
import TypeCatalog.Proofs.Query.ShownContents
import TypeCatalog.Proofs.Query.ShownMember
import TypeCatalog.Proofs.Query.Sorting
import TypeCatalog.Proofs.Query.StableSorting
import TypeCatalog.Proofs.Query.UndocumentedAnswers
import TypeCatalog.Proofs.Query.WiderVisibility
import TypeCatalog.Proofs.Schema.Checked
import TypeCatalog.Proofs.Schema.Completion
import TypeCatalog.Proofs.Schema.Crashing
import TypeCatalog.Proofs.Schema.Genuine
import TypeCatalog.Proofs.Schema.NamedValues
import TypeCatalog.Proofs.Schema.Restoring
import TypeCatalog.Proofs.Session.AnswerContents
import TypeCatalog.Proofs.Session.AnswerOrder
import TypeCatalog.Proofs.Session.CacheTransparency
import TypeCatalog.Proofs.Session.CallTrace
import TypeCatalog.Proofs.Session.HiddenMembers
import TypeCatalog.Proofs.Session.KeptAnswers
import TypeCatalog.Proofs.Session.KeyExactness
import TypeCatalog.Proofs.Session.KindListing
import TypeCatalog.Proofs.Session.ListingPage
import TypeCatalog.Proofs.Session.MeasuredText
import TypeCatalog.Proofs.Session.NameLookup
import TypeCatalog.Proofs.Session.NameQueryOrder
import TypeCatalog.Proofs.Session.OperationAnswer
import TypeCatalog.Proofs.Session.OptionChange
import TypeCatalog.Proofs.Session.OptionMerging
import TypeCatalog.Proofs.Session.OptionRun
import TypeCatalog.Proofs.Session.Outcome
import TypeCatalog.Proofs.Session.PageLength
import TypeCatalog.Proofs.Session.PageStart
import TypeCatalog.Proofs.Session.PageTurning
import TypeCatalog.Proofs.Session.PagingAdvice
import TypeCatalog.Proofs.Session.PagingCompleteness
import TypeCatalog.Proofs.Session.Preparation
import TypeCatalog.Proofs.Session.ReadingAnswer
import TypeCatalog.Proofs.Session.SizeCeiling
import TypeCatalog.Proofs.Session.SizeRefusal
import TypeCatalog.Proofs.Session.Steps
import TypeCatalog.Proofs.Session.Subject
import TypeCatalog.Proofs.Session.TokenBinding
import TypeCatalog.Proofs.Session.TokenClasses
import TypeCatalog.Proofs.Session.TypeLookup
import TypeCatalog.Proofs.Session.UndocumentedRun
import TypeCatalog.Proofs.Session.WholeListing
import TypeCatalog.Proofs.Session.WiderListing
import TypeCatalog.Proofs.Settings.EnvironmentSettings
import TypeCatalog.Proofs.Settings.LoadFailure
import TypeCatalog.Proofs.Settings.MergedPaths
import TypeCatalog.Proofs.Settings.Merging
import TypeCatalog.Proofs.Settings.Precedence
import TypeCatalog.Proofs.Settings.RuntimeOptions
import TypeCatalog.Proofs.Settings.UnreadableEnvironment
import TypeCatalog.Proofs.Settings.ValidConfiguration
import TypeCatalog.Proofs.Source.ManifestFailure
import TypeCatalog.Proofs.Source.Reading
import TypeCatalog.Proofs.Source.ReadingOrder
import TypeCatalog.Proofs.Source.RedactedSource
import TypeCatalog.Proofs.Source.Registry
import TypeCatalog.Proofs.Text.LetterCase
import TypeCatalog.Proofs.Text.Numeral
import TypeCatalog.Proofs.Text.Words
import TypeCatalog.Proofs.Value.Contents
import TypeCatalog.Proofs.Value.Entries
import TypeCatalog.Proofs.Value.UniqueKeys
import TypeCatalog.Proofs.Yaml.GenuineNodes
import TypeCatalog.Proofs.Yaml.GenuineTokens
import TypeCatalog.Proofs.Yaml.SoundParts
import TypeCatalog.Proofs.Yaml.UniqueKeys
import TypeCatalog.Query.Listing
import TypeCatalog.Query.Lookup
import TypeCatalog.Query.Options
import TypeCatalog.Report.Catalog
import TypeCatalog.Report.Envelope
import TypeCatalog.Report.Error
import TypeCatalog.Report.Maker
import TypeCatalog.Schema.Checked
import TypeCatalog.Schema.Scalar
import TypeCatalog.Session.Basic
import TypeCatalog.Session.Operation
import TypeCatalog.Session.Options
import TypeCatalog.Session.Query
import TypeCatalog.Settings.Configuration
import TypeCatalog.Settings.Environment
import TypeCatalog.Settings.Load
import TypeCatalog.Settings.Merge
import TypeCatalog.Settings.RuntimeOptions
import TypeCatalog.Source.Manifest
import TypeCatalog.Source.ModuleSource
import TypeCatalog.Text.CharacterClass
import TypeCatalog.Text.LetterCase
import TypeCatalog.Text.Numeral
import TypeCatalog.Text.Order
import TypeCatalog.Text.Similarity
import TypeCatalog.Text.Split
import TypeCatalog.Text.Utf8
import TypeCatalog.Text.Written
import TypeCatalog.Tool.Basic
import TypeCatalog.Tool.Parameter
import TypeCatalog.Value.Basic
import TypeCatalog.Value.Display
import TypeCatalog.Value.Quantity
import TypeCatalog.Value.Timestamp
import TypeCatalog.Yaml.Document
import TypeCatalog.Yaml.Node
import TypeCatalog.Yaml.ScalarText
import TypeCatalog.Yaml.ScalarValue
import TypeCatalog.Yaml.Tag
import TypeCatalog.Yaml.Token
import TypeCatalog.Yaml.TokenStream
