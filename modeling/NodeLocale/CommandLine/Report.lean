import NodeLocale.CommandLine.Style
import NodeLocale.CommandLine.Summary
import NodeLocale.ConfigFile
import NodeLocale.Decimal.Binary64
import NodeLocale.Text.Columns

/-!
# Reports

What commands print. The summary of a command is its output; the progress of localizations and a
hint at files that could not be read are messages beside it. With all details the issues come
first and each plugin is described file by file.
-/

namespace NodeLocale.CommandLine

def successMark : String := "\u2713"

def failureMark : String := "\u2718"

/-- The arrow in front of places. -/
def arrow : Span := inColor .blue "-->"

/-- A line that points to a place. -/
def pointer (place : String) : Line := [plain "  ", arrow, plain (" " ++ place)]

def successLine (text : String) : Line :=
  [inColor .green successMark, plain " ", inColor .green text]

def failureLine (text : String) : Line := [inColor .red failureMark, plain (" " ++ text)]

/-- A singular or a plural, depending on a count. -/
def byCount (count : Nat) (one many : String) : String := if count = 1 then one else many

/-! ## Issues -/

/-- The name of a severity with its style. -/
def severitySpan (severity : Severity) : Span :=
  match severity with
  | .error => boldIn .red severity.name
  | .warning => boldIn .yellow severity.name
  | .info => boldIn .cyan severity.name

/-- Where an issue arose. -/
def issuePlace? : Issue → Option String
  | .parseFailure file _ => some file
  | issue => issue.node?

def issueLines (issue : Issue) : List Line :=
  let rule : Span :=
    { text := issue.rule.name, style := { dimmed := true, color := some .cyan } }
  [severitySpan issue.severity, plain (": " ++ issue.message ++ "  "), rule] ::
    (issuePlace? issue).toList.map pointer

/-- The number of issues of a severity. -/
def countOf (severity : Severity) (issues : List Issue) : Nat :=
  issues.countP fun issue => issue.severity = severity

/-- The lines that count the issues that are problems. -/
def problemLines (issues : List Issue) : List Line :=
  let errors := countOf .error issues
  let warnings := countOf .warning issues
  if errors + warnings = 0 then []
  else
    [[], [inColor .red failureMark,
      plain (" " ++ toString (errors + warnings) ++ " problems (" ++ toString errors ++ " "),
      inColor .red (byCount errors "error" "errors"), plain (", " ++ toString warnings ++ " "),
      inColor .yellow (byCount warnings "warning" "warnings"), plain ")"]]

def issuesReport (issues : List Issue) : List Line :=
  issues.flatMap issueLines ++ problemLines issues

/-! ## Detection -/

/-- The nodes of each file, in the order of the nodes. -/
def nodesByFile (nodes : NodeMap) : OrderedMap String NodeMap :=
  nodes.entries.foldl
    (fun groups entry =>
      let file := (entry.2.sourceFile.map Path.text).getD "<unknown>"
      groups.insert file (((groups.get? file).getD ∅).insert entry.1 entry.2))
    ∅

/-- The number of fields of a section of all nodes of a file. -/
def fieldTotal (part : FieldSection) (nodes : NodeMap) : Nat :=
  (nodes.values.map fun schema => (schema.fields part).size).foldr (· + ·) 0

/-- The lines of a file, padded to a width. -/
def fileLines (width : Nat) (file : String) (nodes : NodeMap) : List Line :=
  let padding := String.ofList (List.replicate (width - Text.columns file) ' ')
  [plain ("  " ++ file ++ padding ++ "  " ++ toString nodes.size ++ " node(s)  inputs " ++
    toString (fieldTotal .inputs nodes) ++ "  widgets " ++ toString (fieldTotal .widgets nodes) ++
    "  outputs " ++ toString (fieldTotal .outputs nodes))] ::
  nodes.entries.map fun entry =>
    [plain ("    " ++ entry.1 ++ " "), dimmed ("(" ++ entry.2.title ++ ")")]

/-- The lines of the nodes of a plugin, file by file. -/
def detectionLines (nodes : NodeMap) : List Line :=
  let groups := nodesByFile nodes
  let width := (groups.keys.map Text.columns).foldl max 0
  groups.entries.flatMap fun group => fileLines width group.1 group.2

/-- The lines of a plugin whose nodes were detected. -/
def extractionLines (verbose : Bool) (extraction : PluginExtraction) : List Line :=
  let survey := extraction.survey
  match survey.error with
  | some error => [failureLine (extraction.plugin ++ ": " ++ error.message)]
  | none =>
    [successLine (extraction.plugin ++ ": " ++ toString survey.nodes.size ++ " " ++
      byCount survey.nodes.size "node" "nodes" ++ " from " ++
      toString survey.report.processedFiles ++ "/" ++ toString survey.report.totalFiles ++
      " files"),
      pointer extraction.dirs.nodesFile.text] ++
    (if verbose then pointer extraction.dirs.reportFile.text :: detectionLines survey.nodes else [])

/-! ## Localization -/

/-- The line in front of the progress of a plugin. -/
def runHeader (plugin : String) : Line := [boldIn .green "Translating", plain (" " ++ plugin)]

def batchPosition (index total : Nat) : Span :=
  plain ("  [" ++ toString index ++ "/" ++ toString total ++ "] ")

def eventLine : RunEvent → Line
  | .started nodes batches =>
    [plain ("  " ++ toString nodes ++ " node(s) in " ++ toString batches ++ " batch(es)")]
  | .batchStarted index total nodeNames =>
    [batchPosition index total, dimmed (String.intercalate ", " nodeNames)]
  | .batchResumed index total =>
    [batchPosition index total, inColor .cyan "resumed from saved batch"]
  | .batchUsage _ usage runningTotal =>
    [plain ("        tokens: " ++ toString usage.prompt ++ " prompt, " ++
      toString usage.completion ++ " completion (" ++ toString runningTotal ++ " so far)")]
  | .batchCompleted index total corrections =>
    [batchPosition index total, inColor .green successMark,
      plain (" (" ++ toString corrections ++ " correction(s))")]
  | .finalValidation corrections =>
    [plain ("  final validation: " ++ toString corrections ++ " correction(s)")]

/-- An amount of money. -/
def amount (value : Binary64) : String := "$" ++ value.fixedText 4

/-- The lines of a plugin that was translated. -/
def completedLines (plugin : String) (result : CompletedRun) : List Line :=
  [successLine (plugin ++ ": translated " ++ toString result.nodes.size ++ " node(s) in " ++
    toString result.totalBatches ++ " batch(es)"),
    pointer result.finalFile.text] ++
  (if 0 < result.resumedBatches then
    [[plain ("  - resumed: " ++ toString result.resumedBatches ++ " batch(es)")]]
  else []) ++
  [[plain ("  - corrections: " ++ toString (result.batchLog.length + result.finalLog.length))]] ++
  (if 0 < result.glossaryOverrides then
    [[plain ("  - glossary overrides: " ++ toString result.glossaryOverrides)]]
  else []) ++
  [[plain ("  - tokens: " ++ toString result.tokens.total ++ " (" ++
      toString result.tokens.prompt ++ " prompt, " ++ toString result.tokens.completion ++
      " completion)")],
    [plain ("  - estimated cost: " ++ amount result.cost.total ++ " (" ++
      amount result.cost.prompt ++ " prompt, " ++ amount result.cost.completion ++
      " completion)")]]

/-- The lines of a plugin whose localization ended. -/
def localizationLines (localization : PluginLocalization) : List Line :=
  let plugin := localization.plugin
  match localization.status with
  | .completed result => completedLines plugin result
  | .cancelled completed total =>
    [[inColor .yellow failureMark, plain (" " ++ plugin ++ ": cancelled after " ++
        toString completed ++ "/" ++ toString total ++ " batch(es)")],
      [plain "Run again with ", inColor .cyan "--resume", plain " to continue."]]
  | .failed error => [failureLine (plugin ++ ": " ++ error)]
  | .noNodes =>
    [[boldIn .yellow "warning:",
      plain (" " ++ plugin ++ ": no nodes found, nothing to translate")]]

/-! ## Other commands -/

def reconcileLines (verbose : Bool) (corrections : Nat) (summary : ReconcileSummary) :
    List Line :=
  [successLine ("Reconciled " ++ toString summary.nodeCount ++ " node(s) in " ++
    summary.mode.name ++ " mode, " ++ toString corrections ++ " correction(s)"),
    pointer summary.outputFile.text] ++
  summary.tableFile.toList.map (fun file => pointer file.text) ++
  (if summary.correctionsMade = some false then
    [[plain "  - no translated keys needed restoring"]]
  else []) ++
  (if 0 < corrections && !verbose then
    [[plain "Run with ", inColor .cyan "-v", plain " to list corrections."]]
  else [])

/-- The numbers of nodes that were compared. -/
def comparedCounts (summary : DiffSummary) : String :=
  "(" ++ toString summary.oldCount ++ " old, " ++ toString summary.newCount ++ " new)"

def diffLines (summary : DiffSummary) : List Line :=
  if summary.added.isEmpty then [successLine ("No new nodes " ++ comparedCounts summary)]
  else
    [[boldIn .yellow "Added", plain (" " ++ toString summary.added.length ++ " new node(s) " ++
      comparedCounts summary ++ ":")]] ++
    summary.added.map (fun name => [plain ("  + " ++ name)]) ++
    summary.outputFile.toList.map fun file => pointer file.text

/-- The lines of writing a configuration file. -/
def initLines (created : Bool) : List Line :=
  if created then [successLine ("Created " ++ ConfigFile.fileName)]
  else [failureLine (ConfigFile.fileName ++ " already exists")]

def summaryLines (verbose : Bool) (corrections : Nat) : Summary → List Line
  | .extract plugins => plugins.flatMap (extractionLines verbose)
  | .translate plugins => plugins.flatMap localizationLines
  | .reconcile summary => reconcileLines verbose corrections summary
  | .diff summary => diffLines summary
  | .init created => initLines created

def outputLines (verbose : Bool) (result : CommandResult) : List Line :=
  (if verbose then issuesReport result.issues else []) ++
    summaryLines verbose result.issues.length result.summary

/-- The hint at files that could not be read. -/
def parseWarning (verbose : Bool) (result : CommandResult) : List Line :=
  let failures := result.issues.countP fun issue => issue.rule = .parseFailure
  if 0 < failures && !verbose then
    [[boldIn .yellow "warning:", plain (" " ++ toString failures ++
        " file(s) could not be parsed (use "), inColor .cyan "-v", plain " for details)"]]
  else []

end NodeLocale.CommandLine
