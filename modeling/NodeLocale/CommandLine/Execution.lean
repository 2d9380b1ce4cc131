import NodeLocale.CommandLine.Summary
import NodeLocale.ConfigFile
import NodeLocale.CommandLine.Report
import NodeLocale.NodeDiff
import NodeLocale.Localization.Service

/-!
# Running commands

A command takes a file tree to a changed one and comes to a result or an error. Localizations
also report their progress. All commands on artifacts read the configuration of the working
directory first.
-/

namespace NodeLocale.CommandLine

/-- Why a command could not run. -/
inductive CommandError
  | config (error : ConfigError)
  /-- An artifact could not be loaded or saved. -/
  | artifact (error : ArtifactError)
  /-- The configuration file could not be written. -/
  | file (error : FileError)
  /-- The given batch size is zero. -/
  | emptyBatches
  | noTranslator (reason : String)
  /-- A run broke off and took the command with it. -/
  | workerStopped (panic : String)
  | serveElsewhere

def CommandError.message : CommandError → String
  | config error => error.message
  | artifact error => error.message
  | file error => error.message
  | emptyBatches => "--batch-size must be greater than 0"
  | noTranslator reason => reason
  -- The number that the runtime gives to the task is left out.
  | workerStopped panic =>
    "Translation worker stopped unexpectedly: task panicked with message \"" ++ panic ++ "\""
  | serveElsewhere => "Serve command should be handled before run()"

/-- What a command did. -/
structure CommandRun where
  tree : FileTree
  /-- What was reported meanwhile. -/
  progress : List Line := []
  outcome : Except CommandError CommandResult

/-- A command that failed and changed nothing. -/
def CommandRun.failed (tree : FileTree) (error : CommandError) : CommandRun :=
  { tree, outcome := .error error }

/-- The configuration of the working directory, with the given output directory. -/
def loadSettings (tree : FileTree) (common : CommonOptions) : Except CommandError Config :=
  match ConfigFile.load tree ⟨"."⟩ with
  | .error error => .error (.config error)
  | .ok loaded =>
    .ok (match common.outputDir with
      | some directory => { loaded.config with outputDir := directory }
      | none => loaded.config)

/-! ## Detecting nodes -/

/-- Extracts plugins one after another. -/
def extractAll (settings : ExtractionSettings) (tree : FileTree) :
    List Path → FileTree × List (Except ArtifactError PluginExtraction)
  | [] => (tree, [])
  | plugin :: rest =>
    let (tree, extraction) := PluginExtraction.run settings tree plugin
    let (tree, extractions) := extractAll settings tree rest
    (tree, extraction :: extractions)

/-- The results, if all of them succeeded, and else the first failure. -/
def allOk {α ε : Type} : List (Except ε α) → Except ε (List α)
  | [] => .ok []
  | .error error :: _ => .error error
  | .ok value :: rest => (allOk rest).map fun values => value :: values

/-- What detecting nodes comes to. -/
def extractResult (plugins : List PluginExtraction) : CommandResult :=
  .ofIssues (.extract plugins) (plugins.flatMap fun plugin => plugin.survey.issues)
    (plugins.countP fun plugin => plugin.survey.error.isSome) true

def runExtract (tree : FileTree) (plugins : List Path) (common : CommonOptions) : CommandRun :=
  match loadSettings tree common with
  | .error error => .failed tree error
  | .ok config =>
    let (tree, extractions) := extractAll (.ofConfig config) tree plugins
    match allOk extractions with
    | .error error => .failed tree (.artifact error)
    | .ok extracted => { tree, outcome := .ok (extractResult extracted) }

/-! ## Translating nodes -/

/-- How a user interrupts the localization of plugins, which are counted from zero. -/
abbrev Interrupts := Nat → CancelSignal

/-- What translating plugins needs. -/
structure TranslateSettings where
  /-- How nodes are detected. -/
  extraction : ExtractionSettings
  service : LocalizationService
  options : RunOptions
  interrupts : Interrupts := fun _ => .never

/-- How far the localization of plugins has come. -/
structure TranslateState where
  tree : FileTree
  progress : List Line := []
  plugins : List PluginLocalization := []
  issues : List Issue := []
  /-- The number of plugins that could not be translated. -/
  problems : Nat := 0

namespace TranslateState

/-- Records how a plugin ended. -/
def record (state : TranslateState) (plugin : String) (status : LocalizationStatus) :
    TranslateState :=
  let problem :=
    match status with
    | .completed _ => 0
    | .noNodes => 0
    | _ => 1
  { state with
    plugins := state.plugins ++ [⟨plugin, status⟩]
    problems := state.problems + problem }

end TranslateState

/-- The status that the end of a run amounts to. A run that panicked has none. -/
def statusOf : Except TranslateError RunOutcome → Except CommandError LocalizationStatus
  | .ok (.completed result) => .ok (.completed result)
  | .ok (.cancelled completed total) => .ok (.cancelled completed total)
  | .error (.panicked batch) => .error (.workerStopped (TranslateError.panicked batch).message)
  | .error error => .ok (.failed error.message)

/-- The issues of a run. -/
def issuesOf : LocalizationStatus → List Issue
  | .completed result => result.batchLog ++ result.finalLog
  | _ => []

/-- Whether a run was cancelled. -/
def isCancelled : LocalizationStatus → Bool
  | .cancelled .. => true
  | _ => false

/-- Translates the nodes of a plugin whose directories exist. -/
def translateNodes (settings : TranslateSettings) (dirs : OutputDirs) (nodes : NodeMap)
    (state : TranslateState) : TranslateState × Except CommandError LocalizationStatus :=
  let run : LocalizationRun :=
    { service := settings.service
      options := settings.options
      dirs
      cancel := settings.interrupts state.plugins.length }
  let (ran, outcome) := run.execute state.tree nodes
  let state := { state with
    tree := ran.tree
    progress := state.progress ++ runHeader dirs.plugin :: ran.events.map eventLine }
  match statusOf outcome with
  | .error error => (state, .error error)
  | .ok status => ({ state with issues := state.issues ++ issuesOf status }, .ok status)

/-- Detects and translates the nodes of a plugin. Also says whether to stop. -/
def translatePlugin (settings : TranslateSettings) (plugin : Path) (state : TranslateState) :
    TranslateState × Except CommandError Bool :=
  match PluginExtraction.run settings.extraction state.tree plugin with
  | (tree, .error error) => ({ state with tree }, .error (.artifact error))
  | (tree, .ok extraction) =>
    let state := { state with tree, issues := state.issues ++ extraction.survey.issues }
    match extraction.survey.error with
    | some error => (state.record extraction.plugin (.failed error.message), .ok false)
    | none =>
      if extraction.survey.nodes.isEmpty then
        (state.record extraction.plugin .noNodes, .ok false)
      else
        let dirs := OutputDirs.ofPlugin settings.extraction.output ⟨extraction.plugin⟩
        match OutputDirs.create state.tree dirs with
        | (tree, .error error) => ({ state with tree }, .error (.artifact error))
        | (tree, .ok ()) =>
          match translateNodes settings dirs extraction.survey.nodes { state with tree } with
          | (state, .error error) => (state, .error error)
          | (state, .ok status) =>
            (state.record extraction.plugin status, .ok (isCancelled status))

/-- Detects and translates the nodes of plugins one after another. -/
def translateAll (settings : TranslateSettings) :
    List Path → TranslateState → TranslateState × Except CommandError Unit
  | [], state => (state, .ok ())
  | plugin :: rest, state =>
    match translatePlugin settings plugin state with
    | (state, .error error) => (state, .error error)
    | (state, .ok true) => (state, .ok ())
    | (state, .ok false) => translateAll settings rest state

/-- The configuration with what a localization was given. -/
def translateConfig (config : Config) (options : TranslateOptions) :
    Except CommandError Config := do
  let config ←
    match options.batchSize with
    | none => pure config
    | some 0 => throw .emptyBatches
    | some size => pure { config with batchSize := size }
  return if options.glossary then
    { config with glossary := { config.glossary with enabled := true } }
  else config

/-- The service of a configuration, unless recorded replies are given. -/
def serviceOf (programs : Programs) (config : Config) (options : TranslateOptions) :
    Except CommandError LocalizationService :=
  match options.replay with
  | some directory => .ok (.ofRecordings directory)
  | none =>
    match LocalizationService.ofCommand programs config.translator.command with
    | .ok service => .ok service
    | .error reason => .error (.noTranslator reason)

/-- What translating plugins needs, from the configuration and what was given. -/
def translateSettings (programs : Programs) (tree : FileTree) (options : TranslateOptions)
    (common : CommonOptions) : Except CommandError TranslateSettings := do
  let config ← translateConfig (← loadSettings tree common) options
  let service ← serviceOf programs config options
  return {
    extraction := .ofConfig config
    service
    options :=
      { RunOptions.ofConfig config with
        resume := options.resume
        keepTemp := options.keepTemp } }

/-- Detects and translates the nodes of plugins. -/
def runTranslate (programs : Programs) (interrupts : Interrupts) (tree : FileTree)
    (plugins : List Path) (options : TranslateOptions) (common : CommonOptions) : CommandRun :=
  match translateSettings programs tree options common with
  | .error error => .failed tree error
  | .ok settings =>
    let (state, outcome) := translateAll { settings with interrupts } plugins { tree }
    { tree := state.tree
      progress := state.progress
      outcome :=
        match outcome with
        | .error error => .error error
        | .ok () =>
          .ok (.ofIssues (.translate state.plugins) state.issues state.problems true) }

/-! ## Reconciling -/

def tableFileName : String := "translation_mapping.json"

/-- The file for the result of a reconciliation, unless one is given. -/
def defaultOutput (translated : Path) : Path :=
  translated.withFileName ((translated.fileStem?.getD "translation") ++ "_reconciled.json")

/-- Saves the name table of a cross check, if there was one. -/
def saveTable (tree : FileTree) (file : Path) :
    Option CrossChecked → FileTree × Except ArtifactError (Option Path)
  | none => (tree, .ok none)
  | some checked =>
    match Artifact.saveJson tree file checked.table.toJson with
    | (tree, .ok ()) => (tree, .ok (some file))
    | (tree, .error error) => (tree, .error error)

/-- Reconciles two artifacts and saves the result. -/
def runReconcile (tree : FileTree) (source translated : Path) (options : ReconcileOptions)
    (common : CommonOptions) : CommandRun :=
  match loadSettings tree common with
  | .error error => .failed tree error
  | .ok config =>
    match ReconcileOutcome.ofFiles tree options.mode source translated with
    | .error error => .failed tree (.artifact error)
    | .ok outcome =>
      let outputFile := options.output.getD (defaultOutput translated)
      match saveTable tree (outputFile.withFileName tableFileName) outcome.checked with
      | (tree, .error error) => .failed tree (.artifact error)
      | (tree, .ok tableFile) =>
        let result :=
          outcome.resultWith config.glossary (options.glossary || config.glossary.enabled)
        match Artifact.saveJson tree outputFile result.nodes.toJson with
        | (tree, .error error) => .failed tree (.artifact error)
        | (tree, .ok ()) =>
          let summary : ReconcileSummary :=
            { mode := options.mode
              outputFile
              nodeCount := result.nodes.size
              tableFile
              correctionsMade := outcome.correctionsMade }
          { tree, outcome := .ok (.ofIssues (.reconcile summary) result.log 0 false) }

/-! ## Other commands -/

def addedFileName : String := "added_nodes.json"

/-- Saves the added nodes, if there are any. -/
def saveAdded (tree : FileTree) (file : Path) (diff : NodeDiff) :
    FileTree × Except ArtifactError (Option Path) :=
  if diff.isEmpty then (tree, .ok none)
  else
    match Artifact.saveJson tree file (.ofMap diff.addedNormalized) with
    | (tree, .ok ()) => (tree, .ok (some file))
    | (tree, .error error) => (tree, .error error)

/-- Loads the two artifacts of a comparison. -/
def loadCompared (tree : FileTree) (older newer : Path) :
    Except ArtifactError (JsonObject × JsonObject) := do
  let old ← Artifact.loadObject tree older
  return (old, ← Artifact.loadObject tree newer)

/-- Lists the nodes that a newer artifact adds. -/
def runDiff (tree : FileTree) (older newer : Path) (output : Option Path)
    (common : CommonOptions) : CommandRun :=
  match loadSettings tree common with
  | .error error => .failed tree error
  | .ok config =>
    match loadCompared tree older newer with
    | .error error => .failed tree (.artifact error)
    | .ok (old, new) =>
      let diff := NodeDiff.between (.ofConfig config) old new
      let directory := output.getD (newer.parent?.getD ⟨""⟩)
      match saveAdded tree (directory.child addedFileName) diff with
      | (tree, .error error) => .failed tree (.artifact error)
      | (tree, .ok outputFile) =>
        let added := diff.addedNames
        let summary : DiffSummary := ⟨old.size, new.size, added, outputFile⟩
        { tree, outcome := .ok (.ofIssues (.diff summary) [] added.length true) }

/-- Writes a configuration file, unless there is one already. -/
def runInit (tree : FileTree) : CommandRun :=
  let file : Path := ⟨ConfigFile.fileName⟩
  if tree.pathExists file then { tree, outcome := .ok (.ofIssues (.init false) [] 1 true) }
  else
    match tree.writeText file Config.defaultText with
    | .ok tree => { tree, outcome := .ok (.ofIssues (.init true) [] 0 true) }
    | .error error => .failed tree (.file error)

/-- Runs a command while the user may interrupt localizations. -/
def runInterrupted (programs : Programs) (interrupts : Interrupts) (tree : FileTree) :
    Command → CommandRun
  | .extract plugins common => runExtract tree plugins common
  | .translate plugins options common =>
    runTranslate programs interrupts tree plugins options common
  | .reconcile source translated options common =>
    runReconcile tree source translated options common
  | .diff older newer output common => runDiff tree older newer output common
  | .init => runInit tree
  | .serve => .failed tree .serveElsewhere

/-- Runs a command that nobody interrupts. -/
def run (programs : Programs) (tree : FileTree) (command : Command) : CommandRun :=
  runInterrupted programs (fun _ => .never) tree command

/-- Whether a command asks for all details. -/
def Command.verbose : Command → Bool
  | extract _ common => common.verbose
  | translate _ _ common => common.verbose
  | reconcile _ _ _ common => common.verbose
  | diff _ _ _ common => common.verbose
  | init => false
  | serve => false

/-- What a command line leaves behind. -/
structure Session where
  tree : FileTree
  output : String := ""
  messages : String := ""
  /-- Why the command could not run, if so. -/
  error : Option String := none
  code : Nat

/-- Prints what a command came to, with all details if it asks for them. -/
def Session.ofRun (colored verbose : Bool) (ran : CommandRun) : Session :=
  match ran.outcome with
  | .error error =>
    { tree := ran.tree
      messages := renderLines colored ran.progress
      error := some error.message
      code := 2 }
  | .ok result =>
    { tree := ran.tree
      output := renderLines colored (outputLines verbose result)
      messages := renderLines colored (ran.progress ++ parseWarning verbose result)
      code := result.code }

/-- Runs a command and prints what it comes to. -/
def Session.ofCommand (programs : Programs) (colored : Bool) (tree : FileTree)
    (command : Command) : Session :=
  .ofRun colored command.verbose (run programs tree command)

/-- Runs what a command line says; without a command it is told what commands there are. -/
def Session.ofCommandLine (programs : Programs) (colored : Bool) (tree : FileTree) :
    Option Command → Session
  | none => { tree, output := helpText, code := 0 }
  | some command => .ofCommand programs colored tree command

end NodeLocale.CommandLine
