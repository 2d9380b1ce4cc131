import NodeLocale.CommandLine.Command
import NodeLocale.Extraction
import NodeLocale.Localization.Run

/-!
# Summaries

What a command comes to: a summary of what it did, the issues that arose, and the number of
problems. A command whose problems count ends with code 1 if there are any; one that could not
run ends with code 2.
-/

namespace NodeLocale.CommandLine

/-- How the localization of a plugin ended. -/
inductive LocalizationStatus
  | completed (result : CompletedRun)
  /-- It was cancelled after so many batches. -/
  | cancelled (completedBatches totalBatches : Nat)
  | failed (error : String)
  /-- There was nothing to translate. -/
  | noNodes

/-- How the localization of a named plugin ended. -/
structure PluginLocalization where
  plugin : String
  /-- How it ended. -/
  status : LocalizationStatus

/-- What a reconciliation did. -/
structure ReconcileSummary where
  mode : ReconcileMode
  outputFile : Path
  nodeCount : Nat
  /-- The file of the name table, if one was written. -/
  tableFile : Option Path
  /-- Whether keys were restored, if any could be. -/
  correctionsMade : Option Bool

/-- What a comparison found. -/
structure DiffSummary where
  /-- The number of nodes of the older artifact. -/
  oldCount : Nat
  /-- The number of nodes of the newer artifact. -/
  newCount : Nat
  /-- The normal names of the added nodes. -/
  added : List String
  /-- The file of the added nodes, if there are any. -/
  outputFile : Option Path

/-- What a command did. -/
inductive Summary
  | extract (plugins : List PluginExtraction)
  | translate (plugins : List PluginLocalization)
  | reconcile (summary : ReconcileSummary)
  /-- Artifacts were compared. -/
  | diff (summary : DiffSummary)
  /-- A configuration file was written, unless there is one already. -/
  | init (created : Bool)

/-- What a command comes to. -/
structure CommandResult where
  summary : Summary
  issues : List Issue
  problems : Nat
  /-- Whether problems make a difference to the code. -/
  problemsCount : Bool

/-- The result of a command with its issues and a number of further problems. -/
def CommandResult.ofIssues (summary : Summary) (issues : List Issue) (others : Nat)
    (problemsCount : Bool) : CommandResult where
  summary
  issues
  problems := issues.countP (fun issue => issue.severity = .error) + others
  problemsCount

/-- The code with which a command that ran ends. -/
def CommandResult.code (result : CommandResult) : Nat :=
  if result.problemsCount && 0 < result.problems then 1 else 0

end NodeLocale.CommandLine
