import ScenarioCompiler.Bindings
import ScenarioCompiler.CommandLine.Arguments
import ScenarioCompiler.CommandLine.Console
import ScenarioCompiler.CommandLine.Ending
import ScenarioCompiler.CommandLine.Run
import ScenarioCompiler.CommandLine.Surroundings
import ScenarioCompiler.ConnectorBinding
import ScenarioCompiler.Container.Basic
import ScenarioCompiler.Container.Schema
import ScenarioCompiler.DatasetIds
import ScenarioCompiler.Datum
import ScenarioCompiler.Distinct
import ScenarioCompiler.Environment.Common
import ScenarioCompiler.Environment.EventHub
import ScenarioCompiler.Failure
import ScenarioCompiler.Json.Basic
import ScenarioCompiler.Json.Pretty
import ScenarioCompiler.Json.Reader
import ScenarioCompiler.Json.Writer
import ScenarioCompiler.Main
import ScenarioCompiler.Number.Binary64
import ScenarioCompiler.Number.Power
import ScenarioCompiler.Pipeline.Compile
import ScenarioCompiler.Pipeline.DependencyGraph
import ScenarioCompiler.Pipeline.Stack
import ScenarioCompiler.Pipeline.Stage
import ScenarioCompiler.Placeholder
import ScenarioCompiler.Proofs.CommandLine.Endings
import ScenarioCompiler.Proofs.CommandLine.Interchange
import ScenarioCompiler.Proofs.ConnectorBinding
import ScenarioCompiler.Proofs.Container.Interchange
import ScenarioCompiler.Proofs.ContainerName
import ScenarioCompiler.Proofs.DatasetIds
import ScenarioCompiler.Proofs.DatasetIds.Collected
import ScenarioCompiler.Proofs.DatasetIds.Spellings
import ScenarioCompiler.Proofs.Datum
import ScenarioCompiler.Proofs.Environment.Configured
import ScenarioCompiler.Proofs.Environment.Topics
import ScenarioCompiler.Proofs.Json.DropNulls
import ScenarioCompiler.Proofs.Json.Field
import ScenarioCompiler.Proofs.Json.Names
import ScenarioCompiler.Proofs.Json.RoundTrip
import ScenarioCompiler.Proofs.Json.Scalar
import ScenarioCompiler.Proofs.LastItem
import ScenarioCompiler.Proofs.Outcome
import ScenarioCompiler.Proofs.Pipeline.Barrier
import ScenarioCompiler.Proofs.Pipeline.CatalogOrder
import ScenarioCompiler.Proofs.Pipeline.Compilable
import ScenarioCompiler.Proofs.Pipeline.Compile
import ScenarioCompiler.Proofs.Pipeline.Credentials
import ScenarioCompiler.Proofs.Pipeline.DatasetLookup
import ScenarioCompiler.Proofs.Pipeline.DependencyGraph
import ScenarioCompiler.Proofs.Pipeline.DependencyOrder
import ScenarioCompiler.Proofs.Pipeline.ExecutionOrder
import ScenarioCompiler.Proofs.Pipeline.Frontier
import ScenarioCompiler.Proofs.Pipeline.GeneratedName
import ScenarioCompiler.Proofs.Pipeline.GrownGraph
import ScenarioCompiler.Proofs.Pipeline.Inventory
import ScenarioCompiler.Proofs.Pipeline.Layers
import ScenarioCompiler.Proofs.Pipeline.Linking
import ScenarioCompiler.Proofs.Pipeline.MergedSteps
import ScenarioCompiler.Proofs.Pipeline.Probes
import ScenarioCompiler.Proofs.Pipeline.Relational
import ScenarioCompiler.Proofs.Pipeline.ReplacedRuns
import ScenarioCompiler.Proofs.Pipeline.SharedVariables
import ScenarioCompiler.Proofs.Pipeline.StackedGraph
import ScenarioCompiler.Proofs.Pipeline.StackedOrder
import ScenarioCompiler.Proofs.Pipeline.Stacking
import ScenarioCompiler.Proofs.Pipeline.Stages
import ScenarioCompiler.Proofs.Pipeline.WellFormed
import ScenarioCompiler.Proofs.Placeholder
import ScenarioCompiler.Proofs.Pointwise
import ScenarioCompiler.Proofs.ResourceName
import ScenarioCompiler.Proofs.Schema.Codec
import ScenarioCompiler.Proofs.Settings.Attribution
import ScenarioCompiler.Proofs.Settings.ConflictingVariables
import ScenarioCompiler.Proofs.Settings.ExpectedErrors
import ScenarioCompiler.Proofs.Settings.Loading
import ScenarioCompiler.Proofs.Settings.Overlay
import ScenarioCompiler.Proofs.Settings.Override
import ScenarioCompiler.Proofs.Settings.OverrideTree
import ScenarioCompiler.Proofs.Settings.Placement
import ScenarioCompiler.Proofs.Settings.Session
import ScenarioCompiler.Proofs.Settings.UnmappedVariable
import ScenarioCompiler.Proofs.Settings.Variables
import ScenarioCompiler.Proofs.Step.ChangedSettings
import ScenarioCompiler.Proofs.Step.Download
import ScenarioCompiler.Proofs.Step.DownloadFolders
import ScenarioCompiler.Proofs.Step.Fetch
import ScenarioCompiler.Proofs.Step.SharedVariables
import ScenarioCompiler.Proofs.Step.Solution
import ScenarioCompiler.Proofs.Step.Variables
import ScenarioCompiler.Proofs.Table
import ScenarioCompiler.Proofs.Text.LowerCase
import ScenarioCompiler.Proofs.Text.Replacement
import ScenarioCompiler.Proofs.Workflow.Consistency
import ScenarioCompiler.Proofs.Workflow.Document
import ScenarioCompiler.Proofs.Workflow.JsonText
import ScenarioCompiler.Proofs.Workflow.Keyed
import ScenarioCompiler.Proofs.Workflow.Names
import ScenarioCompiler.Proofs.Workflow.NoNull
import ScenarioCompiler.Proofs.Workflow.Projection
import ScenarioCompiler.Proofs.Workflow.Reading
import ScenarioCompiler.Proofs.Workflow.Serialize
import ScenarioCompiler.Proofs.Workflow.YamlText
import ScenarioCompiler.Proofs.Yaml.Blocks
import ScenarioCompiler.Proofs.Yaml.Cursor
import ScenarioCompiler.Proofs.Yaml.Delivery
import ScenarioCompiler.Proofs.Yaml.LongKeys
import ScenarioCompiler.Proofs.Yaml.Numbers
import ScenarioCompiler.Proofs.Yaml.Plain
import ScenarioCompiler.Proofs.Yaml.PlainText
import ScenarioCompiler.Proofs.Yaml.Quoted
import ScenarioCompiler.Proofs.Yaml.QuotedText
import ScenarioCompiler.Proofs.Yaml.RoundTrip
import ScenarioCompiler.Proofs.Yaml.Run
import ScenarioCompiler.Proofs.Yaml.Scalars
import ScenarioCompiler.Proofs.Yaml.Signs
import ScenarioCompiler.Proofs.Yaml.Tokens
import ScenarioCompiler.Proofs.Yaml.Trees
import ScenarioCompiler.Proofs.Yaml.Unended
import ScenarioCompiler.Proofs.Yaml.Values
import ScenarioCompiler.Proofs.Yaml.Written
import ScenarioCompiler.Request.Basic
import ScenarioCompiler.Request.Schema
import ScenarioCompiler.ResourceName
import ScenarioCompiler.Schema.Decoder
import ScenarioCompiler.Schema.Problem
import ScenarioCompiler.Settings.Basic
import ScenarioCompiler.Settings.Load
import ScenarioCompiler.Settings.Override
import ScenarioCompiler.Settings.Schema
import ScenarioCompiler.Settings.Session
import ScenarioCompiler.Step.Basic
import ScenarioCompiler.Step.Fetch
import ScenarioCompiler.Step.Solution
import ScenarioCompiler.Step.Warehouse
import ScenarioCompiler.Table
import ScenarioCompiler.Text.Blank
import ScenarioCompiler.Text.CaseTable
import ScenarioCompiler.Text.LowerCase
import ScenarioCompiler.Text.Numeral
import ScenarioCompiler.Text.PrintableTable
import ScenarioCompiler.Text.Quoted
import ScenarioCompiler.Text.Search
import ScenarioCompiler.Traced
import ScenarioCompiler.Workflow.ApiClass
import ScenarioCompiler.Workflow.ApiValue
import ScenarioCompiler.Workflow.Lowering
import ScenarioCompiler.Workflow.Objects
import ScenarioCompiler.Yaml.Construct
import ScenarioCompiler.Yaml.Cursor
import ScenarioCompiler.Yaml.Error
import ScenarioCompiler.Yaml.Lexer
import ScenarioCompiler.Yaml.Loader
import ScenarioCompiler.Yaml.Node
import ScenarioCompiler.Yaml.Scalar
import ScenarioCompiler.Yaml.Tag
import ScenarioCompiler.Yaml.Token
import ScenarioCompiler.Yaml.Writer
