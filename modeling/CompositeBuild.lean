import CompositeBuild.Aggregation
import CompositeBuild.BuildGraph
import CompositeBuild.BuildGraph.Discovery
import CompositeBuild.Cli.Arguments
import CompositeBuild.Cli.Pages
import CompositeBuild.Cli.Run
import CompositeBuild.Collection.InsertionMap
import CompositeBuild.Collection.SortedMap
import CompositeBuild.Collection.SortedSet
import CompositeBuild.Diagnostic
import CompositeBuild.Dump
import CompositeBuild.Dump.Containers
import CompositeBuild.Dump.Host
import CompositeBuild.Event
import CompositeBuild.Fetched
import CompositeBuild.Files
import CompositeBuild.Files.Tree
import CompositeBuild.Host
import CompositeBuild.HostVersion
import CompositeBuild.Json.Decoder
import CompositeBuild.Json.Lexeme
import CompositeBuild.Json.Node
import CompositeBuild.Json.Number
import CompositeBuild.Json.Reader
import CompositeBuild.Json.Record
import CompositeBuild.Json.Schema
import CompositeBuild.Json.Value
import CompositeBuild.Json.Writer
import CompositeBuild.Main
import CompositeBuild.ModuleId
import CompositeBuild.Number.Binary64
import CompositeBuild.Number.Shortest
import CompositeBuild.Path
import CompositeBuild.Project
import CompositeBuild.Proofs.Aggregation.Agreement
import CompositeBuild.Proofs.Aggregation.Collisions
import CompositeBuild.Proofs.Aggregation.FailureStream
import CompositeBuild.Proofs.Aggregation.Isolation
import CompositeBuild.Proofs.Aggregation.KeySets
import CompositeBuild.Proofs.Aggregation.LastModule
import CompositeBuild.Proofs.Aggregation.Merging
import CompositeBuild.Proofs.Aggregation.ModuleOrder
import CompositeBuild.Proofs.Aggregation.Outcome
import CompositeBuild.Proofs.Aggregation.Reordering
import CompositeBuild.Proofs.Aggregation.Schedules
import CompositeBuild.Proofs.Collection.InsertionMap
import CompositeBuild.Proofs.Collection.Relisting
import CompositeBuild.Proofs.Collection.RepeatedKeys
import CompositeBuild.Proofs.Collection.Representatives
import CompositeBuild.Proofs.Collection.SortedMap
import CompositeBuild.Proofs.Collection.SortedSet
import CompositeBuild.Proofs.Discovery.CapturedBuilds
import CompositeBuild.Proofs.Discovery.Fallback
import CompositeBuild.Proofs.Discovery.IncludeGraph
import CompositeBuild.Proofs.Discovery.IncludePaths
import CompositeBuild.Proofs.Discovery.KnownBuilds
import CompositeBuild.Proofs.Discovery.NestedBuilds
import CompositeBuild.Proofs.Discovery.Reachability
import CompositeBuild.Proofs.Discovery.ReachableBuilds
import CompositeBuild.Proofs.Discovery.SearchOrder
import CompositeBuild.Proofs.Discovery.Strategies
import CompositeBuild.Proofs.Discovery.Unfolding
import CompositeBuild.Proofs.Discovery.Walk
import CompositeBuild.Proofs.Dump.Loaded
import CompositeBuild.Proofs.Dump.Records
import CompositeBuild.Proofs.Dump.Relisting
import CompositeBuild.Proofs.Dump.Resaving
import CompositeBuild.Proofs.Dump.RoundTrip
import CompositeBuild.Proofs.Hierarchy.Containers
import CompositeBuild.Proofs.Hierarchy.Elements
import CompositeBuild.Proofs.Hierarchy.Handles
import CompositeBuild.Proofs.Hierarchy.ModuleIds
import CompositeBuild.Proofs.Hierarchy.Paths
import CompositeBuild.Proofs.Hierarchy.Segments
import CompositeBuild.Proofs.HostVersion.Grammar
import CompositeBuild.Proofs.Json.Decoded
import CompositeBuild.Proofs.Json.Decoding
import CompositeBuild.Proofs.Json.Members
import CompositeBuild.Proofs.Json.Numerals
import CompositeBuild.Proofs.Json.Reading
import CompositeBuild.Proofs.Json.Strings
import CompositeBuild.Proofs.Json.Values
import CompositeBuild.Proofs.Path.FileName
import CompositeBuild.Proofs.Property.Classification
import CompositeBuild.Proofs.Property.Decoded
import CompositeBuild.Proofs.Property.FirstFailure
import CompositeBuild.Proofs.Property.Reading
import CompositeBuild.Proofs.Property.Replacing
import CompositeBuild.Proofs.Property.ReservedKeys
import CompositeBuild.Proofs.Property.StringForms
import CompositeBuild.Proofs.Snapshot.Export
import CompositeBuild.Proofs.Snapshot.Records
import CompositeBuild.Proofs.Snapshot.RoundTrip
import CompositeBuild.Proofs.SourceSet.Entries
import CompositeBuild.Proofs.SourceSet.FileSets
import CompositeBuild.Proofs.SourceSet.TaskNames
import CompositeBuild.Proofs.Text.ByteOrder
import CompositeBuild.Proofs.Text.Pieces
import CompositeBuild.Proofs.Text.Trimming
import CompositeBuild.Proofs.Toolchain.FailedReads
import CompositeBuild.Proofs.Toolchain.Lists
import CompositeBuild.Proofs.Toolchain.PluginArtifact
import CompositeBuild.Proofs.Toolchain.Settings
import CompositeBuild.Proofs.Toolchain.Slots
import CompositeBuild.Proofs.Workspace.Commands
import CompositeBuild.Proofs.Workspace.Outcomes
import CompositeBuild.Property.Basic
import CompositeBuild.Property.Reading
import CompositeBuild.Snapshot
import CompositeBuild.Snapshot.Schema
import CompositeBuild.SourceSet
import CompositeBuild.SourceSet.Extraction
import CompositeBuild.Text.Quotation
import CompositeBuild.Toolchain
import CompositeBuild.Toolchain.Extraction
import CompositeBuild.Toolchain.PluginArtifact
import CompositeBuild.Unicode.Unprintable
import CompositeBuild.Unicode.Uppercase
import CompositeBuild.Unicode.WhiteSpace
import CompositeBuild.Workspace
