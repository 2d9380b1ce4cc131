import NodeLocale.Artifact
import NodeLocale.CommandLine.Command
import NodeLocale.CommandLine.Execution
import NodeLocale.CommandLine.Report
import NodeLocale.CommandLine.Style
import NodeLocale.CommandLine.Summary
import NodeLocale.CommandLine.Usage
import NodeLocale.Config
import NodeLocale.ConfigFile
import NodeLocale.Decimal.Binary64
import NodeLocale.Decimal.Shortest
import NodeLocale.Detection.Detected
import NodeLocale.Detection.NodeClass
import NodeLocale.Detection.Registration
import NodeLocale.Detection.Survey
import NodeLocale.Detection.TypeTables
import NodeLocale.Extraction
import NodeLocale.FileTree
import NodeLocale.FileTree.Changes
import NodeLocale.Glob
import NodeLocale.Issue
import NodeLocale.Json.Decoder
import NodeLocale.Json.Fault
import NodeLocale.Json.Printer
import NodeLocale.Json.Reader
import NodeLocale.Json.Record
import NodeLocale.Json.Value
import NodeLocale.Localization.Batch
import NodeLocale.Localization.Program
import NodeLocale.Localization.Reply
import NodeLocale.Localization.Request
import NodeLocale.Localization.Run
import NodeLocale.Localization.Service
import NodeLocale.Localization.Usage
import NodeLocale.Main
import NodeLocale.NodeDiff
import NodeLocale.NodeName
import NodeLocale.OrderedMap
import NodeLocale.OutputDirs
import NodeLocale.Path
import NodeLocale.Reconcile.Artifacts
import NodeLocale.Reconcile.CrossCheck
import NodeLocale.Reconcile.Glossary
import NodeLocale.Reconcile.Repair
import NodeLocale.Schema
import NodeLocale.Script.ExpressionReader
import NodeLocale.Script.Literal
import NodeLocale.Script.Program
import NodeLocale.Script.Quotation
import NodeLocale.Script.Reader
import NodeLocale.Script.StatementReader
import NodeLocale.Script.Token
import NodeLocale.Shell.Command
import NodeLocale.Shell.Execution
import NodeLocale.Shell.Format
import NodeLocale.Shell.State
import NodeLocale.Shell.Streams
import NodeLocale.Shell.Tools
import NodeLocale.Shell.Word
import NodeLocale.Text.Blank
import NodeLocale.Text.Case
import NodeLocale.Text.CaseTable
import NodeLocale.Text.CharClass
import NodeLocale.Text.Columns
import NodeLocale.Text.Letter
import NodeLocale.Text.Printable
import NodeLocale.Text.Quoted
import NodeLocale.Text.Utf8
import NodeLocale.Tools.Answer
import NodeLocale.Tools.Request
import NodeLocale.Proofs.Files.ChildPath
import NodeLocale.Proofs.Files.Contents
import NodeLocale.Proofs.Files.KeptPlaces
import NodeLocale.Proofs.Files.OutputPlaces
import NodeLocale.Proofs.Files.ParentPath
import NodeLocale.Proofs.Files.Reloading
import NodeLocale.Proofs.Files.Removal
import NodeLocale.Proofs.Files.Resolution
import NodeLocale.Proofs.Files.Saving
import NodeLocale.Proofs.Json.ObjectReading
import NodeLocale.Proofs.Json.StringReading
import NodeLocale.Proofs.Localization.Batches
import NodeLocale.Proofs.Localization.Cancellation
import NodeLocale.Proofs.Localization.Completion
import NodeLocale.Proofs.Localization.Course
import NodeLocale.Proofs.Localization.Endings
import NodeLocale.Proofs.Localization.Failure
import NodeLocale.Proofs.Localization.KeptShape
import NodeLocale.Proofs.Localization.Leftovers
import NodeLocale.Proofs.Localization.Lockstep
import NodeLocale.Proofs.Localization.Matching
import NodeLocale.Proofs.Localization.Progress
import NodeLocale.Proofs.Localization.Refinement
import NodeLocale.Proofs.Localization.Resumption
import NodeLocale.Proofs.Localization.SavedBatches
import NodeLocale.Proofs.Localization.Saves
import NodeLocale.Proofs.Localization.Steps
import NodeLocale.Proofs.Localization.Writability
import NodeLocale.Proofs.Reconcile.Shape
import NodeLocale.Proofs.Localization.Reports
import NodeLocale.Proofs.Localization.OutputRoot
import NodeLocale.Proofs.Basic
import NodeLocale.Proofs.Reconcile.Candidates
import NodeLocale.Proofs.Reconcile.Restoration
import NodeLocale.Proofs.Reconcile.SecondPass
import NodeLocale.Proofs.Reconcile.DocumentOrder
import NodeLocale.Proofs.Reconcile.Decisions
import NodeLocale.Proofs.Reconcile.NodeOrder
import NodeLocale.Proofs.Reconcile.RepairedNodes
import NodeLocale.Proofs.Reconcile.RepairLog
import NodeLocale.Proofs.Reconcile.RepairFixedPoint
import NodeLocale.Proofs.Json.ValueReading
import NodeLocale.Proofs.Files.ArtifactRoundTrip
import NodeLocale.Proofs.Files.AbsolutePaths
import NodeLocale.Proofs.Localization.Messages
import NodeLocale.Proofs.Localization.Echo
import NodeLocale.Proofs.Localization.SentNodes
import NodeLocale.Proofs.Occurrences
import NodeLocale.Proofs.Detection.DiscoveryOrder
import NodeLocale.Proofs.Detection.Identity
import NodeLocale.Proofs.Detection.TakenKeys
import NodeLocale.Proofs.Detection.DeclaredFields
import NodeLocale.Proofs.Detection.Merging
import NodeLocale.Proofs.Text.Words
import NodeLocale.Proofs.Names.Phrases
import NodeLocale.Proofs.Names.NormalForms
import NodeLocale.Proofs.Names.AddedNodes
import NodeLocale.Proofs.Names.Spacing
import NodeLocale.Proofs.Names.GreedyMatching
import NodeLocale.Proofs.Extraction.OwnArtifacts
import NodeLocale.Proofs.CommandLine.KeptInputs
import NodeLocale.Proofs.CommandLine.Settings
import NodeLocale.Proofs.CommandLine.Agreement
import NodeLocale.Proofs.CommandLine.ExitCode
import NodeLocale.Proofs.CommandLine.AddedCounts
import NodeLocale.Proofs.Reconcile.IncompleteNodes
import NodeLocale.Proofs.Reconcile.LogLines
import NodeLocale.Proofs.Detection.RenamedOutputs
import NodeLocale.Proofs.Detection.RepeatedNames
import NodeLocale.Proofs.Detection.ReplacedAssignments
import NodeLocale.Proofs.Detection.ChainedAssignments
import NodeLocale.Proofs.Detection.ReportedCounts
import NodeLocale.Proofs.Reconcile.NameTables
import NodeLocale.Proofs.Localization.TokenTotals
import NodeLocale.Proofs.Json.Grammar
import NodeLocale.Proofs.Json.Skipping
import NodeLocale.Proofs.Json.Tokens
import NodeLocale.Proofs.Json.Numbers
import NodeLocale.Proofs.Json.Loops
import NodeLocale.Proofs.Json.RecordReading
import NodeLocale.Proofs.Localization.Envelopes
import NodeLocale.Proofs.Json.Values
import NodeLocale.Proofs.Json.Printing
import NodeLocale.Proofs.Localization.WrappedObjects
import NodeLocale.Proofs.Reconcile.GlossaryPass
import NodeLocale.Proofs.Script.Spelling
