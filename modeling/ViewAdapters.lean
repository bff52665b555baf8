import ViewAdapters.Adapter.Content
import ViewAdapters.Adapter.Discovery
import ViewAdapters.Adapter.Dispatch
import ViewAdapters.Adapter.Generation
import ViewAdapters.Adapter.GenerationTime
import ViewAdapters.Adapter.Header
import ViewAdapters.Adapter.Kotlin
import ViewAdapters.Adapter.Swift
import ViewAdapters.Adapter.UserTemplate
import ViewAdapters.Adapter.UserTemplate.Context
import ViewAdapters.Adapter.UserTemplate.Value
import ViewAdapters.Adapter.View
import ViewAdapters.Calendar.Date
import ViewAdapters.Calendar.DateTime
import ViewAdapters.Calendar.Iso
import ViewAdapters.Calendar.UtcSecond
import ViewAdapters.CommandLine.Argument
import ViewAdapters.CommandLine.Help
import ViewAdapters.CommandLine.Reach
import ViewAdapters.CommandLine.Reading
import ViewAdapters.CommandLine.Request
import ViewAdapters.CommandLine.Session
import ViewAdapters.CommandLine.Switch
import ViewAdapters.Configuration
import ViewAdapters.Decimal.Binary64
import ViewAdapters.Decimal.Power
import ViewAdapters.Decimal.Shortest
import ViewAdapters.Diagnostic
import ViewAdapters.Document.Json
import ViewAdapters.Document.SetOrder
import ViewAdapters.Document.Stored
import ViewAdapters.Document.Value
import ViewAdapters.Emission.Outcome
import ViewAdapters.Emission.Plan
import ViewAdapters.Emission.Run
import ViewAdapters.Files.Home
import ViewAdapters.Files.Operation
import ViewAdapters.Files.Path
import ViewAdapters.Files.Tree
import ViewAdapters.Limits
import ViewAdapters.Log
import ViewAdapters.Main
import ViewAdapters.Metadata.Error
import ViewAdapters.Metadata.Field
import ViewAdapters.Metadata.Loading
import ViewAdapters.Metadata.Reader
import ViewAdapters.Metadata.TypeText
import ViewAdapters.Model.DateSemantics
import ViewAdapters.Model.Descriptor
import ViewAdapters.Model.Platform
import ViewAdapters.Model.ViewModel
import ViewAdapters.Order.SortedMap
import ViewAdapters.Order.SortedSet
import ViewAdapters.Order.StrictList
import ViewAdapters.Order.Table
import ViewAdapters.Proofs.Adapter.AddedMembers
import ViewAdapters.Proofs.Adapter.Bindings
import ViewAdapters.Proofs.Adapter.Comments
import ViewAdapters.Proofs.Adapter.ComposedLines
import ViewAdapters.Proofs.Adapter.EnabledBackends
import ViewAdapters.Proofs.Adapter.ExcludedMembers
import ViewAdapters.Proofs.Adapter.Faults
import ViewAdapters.Proofs.Adapter.FindingLogs
import ViewAdapters.Proofs.Adapter.Findings
import ViewAdapters.Proofs.Adapter.FittingLines
import ViewAdapters.Proofs.Adapter.Imports
import ViewAdapters.Proofs.Adapter.InputTexts
import ViewAdapters.Proofs.Adapter.KotlinImports
import ViewAdapters.Proofs.Adapter.KotlinLines
import ViewAdapters.Proofs.Adapter.KotlinMembers
import ViewAdapters.Proofs.Adapter.KotlinReading
import ViewAdapters.Proofs.Adapter.KotlinTypes
import ViewAdapters.Proofs.Adapter.MarkedLines
import ViewAdapters.Proofs.Adapter.Outline
import ViewAdapters.Proofs.Adapter.Parts
import ViewAdapters.Proofs.Adapter.PassedParameters
import ViewAdapters.Proofs.Adapter.SharedApi
import ViewAdapters.Proofs.Adapter.ShownTexts
import ViewAdapters.Proofs.Adapter.SwiftReading
import ViewAdapters.Proofs.Adapter.TextLines
import ViewAdapters.Proofs.Adapter.TextStructure
import ViewAdapters.Proofs.Adapter.WrapperLines
import ViewAdapters.Proofs.Adapter.WrapperScopes
import ViewAdapters.Proofs.Calendar.Days
import ViewAdapters.Proofs.Calendar.Seconds
import ViewAdapters.Proofs.CommandLine.Backends
import ViewAdapters.Proofs.CommandLine.Escapes
import ViewAdapters.Proofs.CommandLine.ExitContract
import ViewAdapters.Proofs.CommandLine.GenerationTimes
import ViewAdapters.Proofs.CommandLine.Preparations
import ViewAdapters.Proofs.CommandLine.Statuses
import ViewAdapters.Proofs.Configuration.Shapes
import ViewAdapters.Proofs.Emission.Accounts
import ViewAdapters.Proofs.Emission.AdapterNames
import ViewAdapters.Proofs.Emission.Collisions
import ViewAdapters.Proofs.Emission.Completion
import ViewAdapters.Proofs.Emission.Destinations
import ViewAdapters.Proofs.Emission.DryRuns
import ViewAdapters.Proofs.Emission.Isolation
import ViewAdapters.Proofs.Emission.Jobs
import ViewAdapters.Proofs.Emission.LoadedRuns
import ViewAdapters.Proofs.Emission.Outcomes
import ViewAdapters.Proofs.Emission.OutputDirectories
import ViewAdapters.Proofs.Emission.Preparation
import ViewAdapters.Proofs.Emission.Requests
import ViewAdapters.Proofs.Emission.Reruns
import ViewAdapters.Proofs.Emission.Revisions
import ViewAdapters.Proofs.Emission.Selections
import ViewAdapters.Proofs.Emission.Slots
import ViewAdapters.Proofs.Emission.Stops
import ViewAdapters.Proofs.Emission.Workers
import ViewAdapters.Proofs.Files.Directories
import ViewAdapters.Proofs.Files.MadeDirectories
import ViewAdapters.Proofs.Files.PlainNames
import ViewAdapters.Proofs.Metadata.FirstOffender
import ViewAdapters.Proofs.Metadata.LoadedTypes
import ViewAdapters.Proofs.Metadata.NullableTypes
import ViewAdapters.Proofs.Metadata.PlacedErrors
import ViewAdapters.Proofs.Metadata.ReferenceNames
import ViewAdapters.Proofs.Metadata.RoundTrip
import ViewAdapters.Proofs.Metadata.TypeGrammar
import ViewAdapters.Proofs.Metadata.TypeShapes
import ViewAdapters.Proofs.Metadata.TypeSpelling
import ViewAdapters.Proofs.Order.Repeats
import ViewAdapters.Proofs.Target.ClosureLayers
import ViewAdapters.Proofs.Target.ConvertedData
import ViewAdapters.Proofs.Target.DateMapping
import ViewAdapters.Proofs.Target.FilledNames
import ViewAdapters.Proofs.Target.LongestNamespace
import ViewAdapters.Proofs.Target.PassedValues
import ViewAdapters.Proofs.Target.ResolvedTypes
import ViewAdapters.Proofs.Text.Brackets
import ViewAdapters.Proofs.Text.Composed
import ViewAdapters.Proofs.Text.Identifiers
import ViewAdapters.Proofs.Text.LetterCase
import ViewAdapters.Proofs.Text.Marks
import ViewAdapters.Proofs.Text.Numerals
import ViewAdapters.Proofs.Text.Trimming
import ViewAdapters.Proofs.Text.Words
import ViewAdapters.Proofs.UsageSums
import ViewAdapters.Report
import ViewAdapters.Target.Capability
import ViewAdapters.Target.Conversion
import ViewAdapters.Target.Namespace
import ViewAdapters.Target.Resolution
import ViewAdapters.Target.Resolved
import ViewAdapters.Target.Tables
import ViewAdapters.Text.Blank
import ViewAdapters.Text.CasedChars
import ViewAdapters.Text.Casing
import ViewAdapters.Text.CharRanges
import ViewAdapters.Text.CodePoints
import ViewAdapters.Text.DecimalDigits
import ViewAdapters.Text.Integer
import ViewAdapters.Text.LowerCase
import ViewAdapters.Text.Printable
import ViewAdapters.Text.Quoted
import ViewAdapters.Text.Segments
import ViewAdapters.Text.UpperCase
import ViewAdapters.Text.Utf8
import ViewAdapters.Text.WordChars
import ViewAdapters.Usage
import ViewAdapters.Yaml.Cursor
import ViewAdapters.Yaml.Document
import ViewAdapters.Yaml.Graph
import ViewAdapters.Yaml.Graph.Merge
import ViewAdapters.Yaml.Graph.OfTokens
import ViewAdapters.Yaml.Object
import ViewAdapters.Yaml.Scalar
import ViewAdapters.Yaml.ScalarText
import ViewAdapters.Yaml.Tag
import ViewAdapters.Yaml.Token
import ViewAdapters.Yaml.TokenList
