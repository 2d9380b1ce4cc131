import NodeLocale.ConfigFile
import NodeLocale.Extraction
import NodeLocale.NodeDiff
import NodeLocale.Tools.Request

/-!
# Answers of tools

A tool only looks at files. Its answer is an object, or it fails for one of three causes: the
configuration could not be loaded, an artifact could not be loaded, or the plugin could not be
surveyed.
-/

namespace NodeLocale

/-- Why a tool failed. -/
inductive ToolError
  | config (error : ConfigError)
  | artifact (error : ArtifactError)
  | survey (error : SurveyError)

namespace ToolError

/-- The text of a failure. -/
def message : ToolError → String
  | config error => "Failed to load config: " ++ error.summary
  | artifact error => "Failed to read artifact: " ++ error.message
  | survey error => "Scan failed: " ++ error.message

/-- The code of failures inside a tool. -/
def code : Int := -32603

end ToolError

namespace ToolRequest

/-- The configuration that applies to a directory. -/
def configOf (tree : FileTree) (root : Path) : Except ToolError Config :=
  match ConfigFile.load tree root with
  | .ok loaded => .ok loaded.config
  | .error error => .error (.config error)

/-- The configuration that applies to a directory, the working directory if none is given. -/
def configOrLocal (tree : FileTree) (root : Option Path) : Except ToolError Config :=
  configOf tree (root.getD ⟨"."⟩)

/-- Turns the failure of an artifact into that of a tool. -/
def onArtifact {α : Type} (result : Except ArtifactError α) : Except ToolError α :=
  result.mapError .artifact

/-- The description of a source file that was skipped. -/
def parseFailure? : Issue → Option Json
  | .parseFailure file error =>
    some (.object [("file", .string file), ("error", .string error)])
  | _ => none

/-- Detects the nodes of a plugin. -/
def extract (tree : FileTree) (request : ExtractRequest) : Except ToolError Json := do
  let config ← configOf tree (request.root.getD request.plugin)
  let extraction := PluginExtraction.ofDirectory (.ofConfig config) tree request.plugin
  let survey := extraction.survey
  if let some error := survey.error then throw (.survey error)
  return .object
    [("plugin", .string extraction.plugin),
      ("totalFiles", .ofNat survey.report.totalFiles),
      ("processedFiles", .ofNat survey.report.processedFiles),
      ("nodeCount", .ofNat survey.nodes.size),
      ("nodes", survey.nodes.withoutSources.toJson),
      ("parseFailures", .array (survey.issues.filterMap parseFailure?))]

/-- The description of a name and its normal forms. -/
def normalizedItem (normalizer : NameNormalizer) (name : String) : Json :=
  .object
    [("raw", .string name), ("normalized", .string (normalizer.normalize name)),
      ("baseName", .string (normalizer.baseName name))]

def normalize (tree : FileTree) (request : NormalizeRequest) : Except ToolError Json := do
  let config ← configOrLocal tree request.root
  return .object
    [("items", .array (request.names.map (normalizedItem (.ofConfig config))))]

/-- Lists the nodes that a newer artifact adds. -/
def diff (tree : FileTree) (request : DiffRequest) : Except ToolError Json := do
  let config ← configOrLocal tree request.root
  let old ← onArtifact (Artifact.loadObject tree request.older)
  let new ← onArtifact (Artifact.loadObject tree request.newer)
  let added := (NodeDiff.between (.ofConfig config) old new).addedNormalized
  return .object
    [("oldCount", .ofNat old.size), ("newCount", .ofNat new.size),
      ("addedCount", .ofNat added.size), ("added", .ofMap added)]

/-- The description of a decision. -/
def correctionItem (issue : Issue) : Json :=
  .object
    [("severity", .string issue.severity.name), ("rule", .string issue.rule.name),
      ("node", (issue.node?.map Json.string).getD .null), ("message", .string issue.message)]

/-- The members that only a cross check gives. -/
def checkedMembers (checked : CrossChecked) : List (String × Json) :=
  [("translationTable", checked.table.toJson),
    ("correctionsMade", .bool checked.correctionsMade)]

/-- Loads two artifacts and reconciles them in the mode that is asked for. Also gives the cross
check, if it was one. -/
def reconcileFiles (tree : FileTree) (request : ReconcileRequest) :
    Except ToolError (Reconciled × Option CrossChecked) := do
  let source ← onArtifact (Artifact.loadNodes tree request.source)
  match request.mode with
  | .batch =>
    let candidate ← onArtifact (Artifact.loadObject tree request.translated)
    return (reconcileBatch source candidate, none)
  | .final =>
    let candidate ← onArtifact (Artifact.loadObject tree request.translated)
    return (finalValidation source candidate, none)
  | .strict =>
    let translated ← onArtifact (Artifact.loadNodes tree request.translated)
    let checked := crossCheck source translated
    return (⟨checked.nodes, checked.log⟩, some checked)

/-- The result under the glossary of a configuration, if the request asks for it or leaves this to a
configuration that does. -/
def underGlossary (config : GlossaryConfig) (request : ReconcileRequest)
    (reconciled : Reconciled) : Reconciled :=
  if request.glossary.getD config.enabled then (Glossary.ofConfig config).apply reconciled
  else reconciled

/-- Reconciles two artifacts. -/
def reconcile (tree : FileTree) (request : ReconcileRequest) : Except ToolError Json := do
  let config ← configOrLocal tree request.root
  let (reconciled, checked) ← reconcileFiles tree request
  let result := underGlossary config.glossary request reconciled
  return .object
    ([("mode", .string request.mode.name), ("nodeCount", .ofNat result.nodes.size),
      ("nodes", result.nodes.toJson),
      ("corrections", .array (result.log.map correctionItem))] ++
      (checked.map checkedMembers).getD [])

/-- The values of a configuration that agents are told. -/
def configValues (config : Config) : Json :=
  .object
    [("ignores", .ofStrings config.ignores), ("outputDir", .string config.outputDir),
      ("batchSize", .ofNat config.batchSize), ("widgetTypes", .ofStrings config.widgetTypes),
      ("opaqueTypes", .ofStrings config.opaqueTypes),
      ("primitiveLabels", .ofStrings config.primitiveLabels),
      ("phrases", .ofTexts config.phrases),
      ("translatorCommand", .ofStrings config.translator.command),
      ("glossaryEnabled", .bool config.glossary.enabled)]

def tellConfig (tree : FileTree) (request : ConfigRequest) : Except ToolError Json :=
  match ConfigFile.load tree request.root with
  | .error error => .error (.config error)
  | .ok loaded =>
    .ok (.object [("fromFile", .bool loaded.fromFile), ("config", configValues loaded.config)])

def answer (tree : FileTree) : ToolRequest → Except ToolError Json
  | extractNodes request => extract tree request
  | normalizeNames request => normalize tree request
  | diffNodes request => diff tree request
  | reconcileNodes request => reconcile tree request
  | getConfig request => tellConfig tree request

end ToolRequest

end NodeLocale
