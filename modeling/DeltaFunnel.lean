import DeltaFunnel.Interaction.Program
import DeltaFunnel.Interaction.Parallel
import DeltaFunnel.Report
import DeltaFunnel.SqlServer.Target
import DeltaFunnel.Error
import DeltaFunnel.SqlServer.Lifecycle
import DeltaFunnel.SqlServer.Connection
import DeltaFunnel.SqlServer.Write
import DeltaFunnel.SqlServer.Sink
import DeltaFunnel.SqlServer.SinkTrace
import DeltaFunnel.SqlServer.SinkSafety
import DeltaFunnel.SqlServer.LifecycleTrace
import DeltaFunnel.SqlServer.Server
import DeltaFunnel.SqlServer.CleanupDiscipline
import DeltaFunnel.SqlServer.ReplaceNames
import DeltaFunnel.SqlServer.TableStore
import DeltaFunnel.SqlServer.ReplaceProtocol
import DeltaFunnel.SqlServer.ReplaceRace
import DeltaFunnel.Collections.BTreeSet
import DeltaFunnel.Graph.Traversal
import DeltaFunnel.Session.Catalog
import DeltaFunnel.Session.Registry
import DeltaFunnel.Session.RegistryInvariant
import DeltaFunnel.Session.Dependencies
import DeltaFunnel.WriteAll.CachePlan
import DeltaFunnel.WriteAll.CacheFrontier
import DeltaFunnel.WriteAll.ReplayClosure
import DeltaFunnel.WriteAll.ExplicitCache
import DeltaFunnel.Session.QueryEngine
import DeltaFunnel.SqlServer.Workflow
import DeltaFunnel.WriteAll.CacheAlias
import DeltaFunnel.WriteAll.CachedWorkflow
import DeltaFunnel.WriteAll.CacheScope
import DeltaFunnel.WriteAll.ScopedRun
import DeltaFunnel.Session.CatalogInvariant
import DeltaFunnel.WriteAll.CacheTransparency
import DeltaFunnel.WriteAll.OverlappingRuns
import DeltaFunnel.SqlServer.WorkflowTrace
import DeltaFunnel.Collections.HashMap
import DeltaFunnel.Graph.Forest
import DeltaFunnel.PerfettoProfile.InclusiveFold
import DeltaFunnel.SqlServer.AppendFailures
import DeltaFunnel.PerfettoProfile.RankedReport
import DeltaFunnel.PerfettoProfile.DocumentStructure
import DeltaFunnel.PerfettoProfile.SampleConservation
import DeltaFunnel.Collections.Sorting
import DeltaFunnel.PerfettoProfile.ReportAggregate
import DeltaFunnel.PerfettoProfile.CallTrees
import DeltaFunnel.PerfettoProfile.OfficialProfile
import DeltaFunnel.PerfettoProfile.RecordOrder
import DeltaFunnel.PerfettoProfile.ReportLines
import DeltaFunnel.PerfettoProfile.TraceSanitizer
import DeltaFunnel.PerfettoProfile.PacketScan
import DeltaFunnel.PerfettoProfile.SanitizedPackets
import DeltaFunnel.Sql.Lexer
import DeltaFunnel.SqlServer.PrivateNames
import DeltaFunnel.SqlServer.SwapBatch
import DeltaFunnel.Session.LineageCapture
import DeltaFunnel.Session.SourceBatch
import DeltaFunnel.WriteAll.SourceUsage
import DeltaFunnel.SqlServer.WriteAccounting
import DeltaFunnel.SqlServer.RowCountVerdict
import DeltaFunnel.Session.QueryCompletion
import DeltaFunnel.Graph.FirstVisit
import DeltaFunnel.QueryEngine.PhysicalPlan
import DeltaFunnel.QueryEngine.NodeIdentity
import DeltaFunnel.QueryEngine.Instrumentation
import DeltaFunnel.QueryEngine.ProfileAgreement
import DeltaFunnel.QueryEngine.OperatorActivity
import DeltaFunnel.QueryEngine.WorkerLanes
import DeltaFunnel.QueryEngine.LaneOwnership
import DeltaFunnel.Progress.RichDisplay
import DeltaFunnel.Progress.DisplayLifecycle
import DeltaFunnel.Collections.Brackets
import DeltaFunnel.PerfettoProfile.ProfileLayer
import DeltaFunnel.PerfettoProfile.SpanRegistry
import DeltaFunnel.PerfettoProfile.SpanBalance
import DeltaFunnel.Graph.Contraction
import DeltaFunnel.PerfettoProfile.CompactTree
import DeltaFunnel.PerfettoProfile.CompactCosts
import DeltaFunnel.PerfettoProfile.SourcePaths
import DeltaFunnel.Html.Tokens
import DeltaFunnel.Session.PreviewHtml
import DeltaFunnel.Session.PreviewStructure
import DeltaFunnel.Session.LoadErrors
import DeltaFunnel.Session.RedactedErrors
import DeltaFunnel.PerfettoProfile.DisplayNames
import DeltaFunnel.Graph.BoundedPreorder
import DeltaFunnel.PerfettoProfile.TerminalIndex
import DeltaFunnel.PerfettoProfile.TerminalRows
import DeltaFunnel.PerfettoProfile.BoundedRows
import DeltaFunnel.PerfettoProfile.TerminalForest
import DeltaFunnel.PerfettoProfile.TerminalPrefixes
import DeltaFunnel.Encoding.Decimal
import DeltaFunnel.PerfettoProfile.TerminalText
import DeltaFunnel.Encoding.PrefixCode
import DeltaFunnel.PerfettoProfile.TerminalSafety
import DeltaFunnel.Json.Text
import DeltaFunnel.PerfettoProfile.ReportEscaping
import DeltaFunnel.Relational.Query
import DeltaFunnel.PerfettoProfile.SampleOwnership
import DeltaFunnel.PerfettoProfile.InnermostOwner
import DeltaFunnel.PerfettoProfile.InclusiveSamples
import DeltaFunnel.PerfettoProfile.MalformedTrees
import DeltaFunnel.PerfettoProfile.VarintLoops
import DeltaFunnel.PerfettoProfile.PacketOffsets
import DeltaFunnel.Encoding.FixedFields
import DeltaFunnel.PerfettoProfile.ProfileArtifact
import DeltaFunnel.Collections.Lines
import DeltaFunnel.PerfettoProfile.InteractiveLines
import DeltaFunnel.SqlServer.LockResource
import DeltaFunnel.Collections.Budget
import DeltaFunnel.WriteAll.SchemaDiagnostic
import DeltaFunnel.WriteAll.ReplanSchema
import DeltaFunnel.PerfettoProfile.InspectCommands
import DeltaFunnel.PerfettoProfile.InspectPlace
import DeltaFunnel.Progress.CounterScopes
import DeltaFunnel.Progress.ThrottledDisplay
import DeltaFunnel.PerfettoProfile.InteractiveSession
import DeltaFunnel.Interaction.Narration
import DeltaFunnel.Progress.ProgressReporter
import DeltaFunnel.SqlServer.SinkProgress
import DeltaFunnel.SqlServer.OutputPlanning
import DeltaFunnel.WriteAll.ExecutedOutputs
import DeltaFunnel.PerfettoProfile.ViewerForest
import DeltaFunnel.WriteAll.IssuedOperations
import DeltaFunnel.Progress.FileProgressStream
