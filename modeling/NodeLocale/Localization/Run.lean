import NodeLocale.OutputDirs
import NodeLocale.Reconcile.Glossary
import NodeLocale.Localization.Reply
import NodeLocale.Localization.Request

/-!
# Localization runs

A run saves the pending nodes, translates them batch by batch, and validates the merged result.
The repaired nodes and the log of each batch are saved before the next batch is requested, so a
run that fails or is cancelled leaves its finished batches behind, and a later run may resume
them instead of requesting them again. Only a run that completes removes what it kept for that.

A run is a function of the file tree, of the service and of the cancel signal. What it does
shows in the tree, in the events and in the requests that its state records in their order.
-/

namespace NodeLocale

/-- What a service does with a request: it may change files, and it replies or fails. -/
abbrev LocalizationService :=
  FileTree → LocalizationRequest → FileTree × Except String ServiceReply

/-- The service that answers each request by a fixed reply and touches no file. -/
def LocalizationService.ofReplies (reply : LocalizationRequest → Except String ServiceReply) :
    LocalizationService := fun tree request => (tree, reply request)

/-- What a run is told. -/
structure RunOptions where
  batchSize : Nat
  /-- Whether saved batches are resumed. -/
  resume : Bool := false
  /-- Whether the pending nodes and the batches stay behind a completed run. -/
  keepTemp : Bool := false
  /-- The instruction of all requests. -/
  systemPrompt : String
  glossary : Option Glossary
  /-- The price of a thousand prompt tokens. -/
  promptCostPer1k : Binary64
  /-- The price of a thousand completion tokens. -/
  completionCostPer1k : Binary64

def RunOptions.ofConfig (config : Config) : RunOptions where
  batchSize := config.batchSize
  systemPrompt := config.translator.systemPrompt.getD LocalizationRequest.builtInSystem
  glossary := if config.glossary.enabled then some (.ofConfig config.glossary) else none
  promptCostPer1k := config.translator.promptCostPer1k
  completionCostPer1k := config.translator.completionCostPer1k

/-- What a run reports while it goes on. -/
inductive RunEvent
  | started (nodes batches : Nat)
  /-- A batch is about to be requested. -/
  | batchStarted (index total : Nat) (nodeNames : List String)
  /-- A saved batch is used. -/
  | batchResumed (index total : Nat)
  /-- The service reported the usage of tokens. -/
  | batchUsage (index : Nat) (usage : TokenUsage) (runningTotal : UInt64)
  /-- A batch was repaired and saved. -/
  | batchCompleted (index total corrections : Nat)
  /-- The merged result was validated. -/
  | finalValidation (corrections : Nat)
deriving DecidableEq

/-- Why a run did not come to an outcome. -/
inductive TranslateError
  /-- The pending nodes could not be saved. -/
  | prepare (reason : String)
  | service (batch : Nat) (reason : String)
  /-- The tokens could not be counted. This is a panic: it breaks the run off and takes with it what
  called the run, so that nobody is handed this error. -/
  | panicked (batch : Nat)
  /-- The reply holds no object. -/
  | shape (batch : Nat) (fault : ReplyFault)
  | persist (batch : Nat) (reason : String)
  /-- The result could not be saved. -/
  | finalize (reason : String)
deriving DecidableEq

namespace TranslateError

/-- The batch at which a run failed. -/
def batch? : TranslateError → Option Nat
  | service batch _ => some batch
  | panicked batch => some batch
  | shape batch _ => some batch
  | persist batch _ => some batch
  | _ => none

/-- The text of a failure. -/
def message : TranslateError → String
  | prepare reason => "failed to prepare translation run: " ++ reason
  | service batch reason =>
    "batch " ++ toString batch ++ ": translation service failed: " ++ reason
  | panicked _ => "attempt to add with overflow"
  | shape batch fault =>
    "batch " ++ toString batch ++ ": reply is not a usable JSON object: " ++ fault.message
  | persist batch reason =>
    "batch " ++ toString batch ++ ": failed to save corrected batch: " ++ reason
  | finalize reason => "failed to save final result: " ++ reason

end TranslateError

/-- Where a run looks at the cancel signal. -/
inductive Checkpoint
  | before (batch : Nat)
  /-- After a batch has been saved. -/
  | after (batch : Nat)
deriving DecidableEq

/-- Whether a run is to be cancelled, at each point where it looks and after the events so far. -/
abbrev CancelSignal := Checkpoint → List RunEvent → Bool

/-- The signal that is never given. -/
def CancelSignal.never : CancelSignal := fun _ _ => false

/-- The files that a completed run removes, in the order in which they were registered. -/
def registerTemp (registered : List Path) (path : Path) : List Path :=
  if registered.any path.same then registered else registered ++ [path]

/-- How far a run has come. -/
structure RunState where
  tree : FileTree
  events : List RunEvent := []
  /-- What the service was asked. -/
  requests : List LocalizationRequest := []
  tokens : TokenUsage := {}
  /-- The files that are to be removed in the end. -/
  tempFiles : List Path := []
  /-- The repaired nodes of all batches so far. -/
  merged : JsonObject := ∅
  /-- The decisions on all batches that were requested. -/
  batchLog : CorrectionLog := []
  /-- The number of batches that were resumed. -/
  resumed : Nat := 0

/-- The result of a run that completed. -/
structure CompletedRun where
  nodes : NodeMap
  finalFile : Path
  totalBatches : Nat
  resumedBatches : Nat
  /-- The decisions on the batches that were requested. -/
  batchLog : CorrectionLog
  /-- The decisions on the merged result and those of the glossary. -/
  finalLog : CorrectionLog
  /-- The number of labels that the glossary replaced. -/
  glossaryOverrides : Nat
  tokens : TokenUsage
  /-- The files that were kept although a run removes them as a rule. -/
  tempFiles : List Path
  cost : CostEstimate

/-- How a run ended. -/
inductive RunOutcome
  /-- All batches were translated. -/
  | completed (result : CompletedRun)
  /-- The run was cancelled after so many batches. -/
  | cancelled (completedBatches totalBatches : Nat)

/-- What a run works with. -/
structure LocalizationRun where
  service : LocalizationService
  options : RunOptions
  /-- The places of all artifacts. -/
  dirs : OutputDirs
  cancel : CancelSignal := CancelSignal.never

namespace RunState

def report (state : RunState) (event : RunEvent) : RunState :=
  { state with events := state.events ++ [event] }

/-- Registers a file that is to be removed in the end. -/
def register (state : RunState) (path : Path) : RunState :=
  { state with tempFiles := registerTemp state.tempFiles path }

/-- Takes account of the usage that a service reported for a batch, if the counts fit. -/
def account? (state : RunState) (batch : Nat) : Option TokenUsage → Option RunState
  | none => some state
  | some usage => do
    let tokens ← state.tokens.record? usage
    return { state with tokens }.report (.batchUsage batch usage tokens.total)

/-- Adds the repaired nodes of a batch to the result. -/
def merge (state : RunState) (nodes : NodeMap) : RunState :=
  { state with merged := state.merged.insertMany nodes.toJsonObject.entries }

end RunState

/-- Saves repaired nodes in one file and their log in another. -/
def Reconciled.save (reconciled : Reconciled) (tree : FileTree) (nodesFile logFile : Path) :
    FileTree × Except ArtifactError Unit :=
  match Artifact.saveJson tree nodesFile reconciled.nodes.toJson with
  | (tree, .error error) => (tree, .error error)
  | (tree, .ok ()) => Artifact.saveLines tree logFile reconciled.log.lines

namespace LocalizationRun

variable (run : LocalizationRun)

/-- The saved nodes of a batch, if they are to be resumed: the file must hold a node map with
the keys of the batch in their order. -/
def savedBatch? (tree : FileTree) (batch : Batch) : Option NodeMap :=
  if run.options.resume && tree.isFile (run.dirs.batchFile batch.index) then
    match Artifact.loadNodes tree (run.dirs.batchFile batch.index) with
    | .ok saved => if saved.keys = batch.nodes.keys then some saved else none
    | .error _ => none
  else none

/-- Saves the repaired nodes and the log of a batch. -/
def saveBatch (tree : FileTree) (batch : Batch) (reconciled : Reconciled) :
    FileTree × Except ArtifactError Unit :=
  reconciled.save tree (run.dirs.batchFile batch.index) (run.dirs.batchLogFile batch.index)

/-- Requests a batch. -/
def requestBatch (batch : Batch) (state : RunState) : RunState × Except String ServiceReply :=
  let request := LocalizationRequest.ofBatch run.options.systemPrompt batch
  let (tree, answer) := run.service state.tree request
  ({ state with tree, requests := state.requests ++ [request] }, answer)

/-- Requests, repairs and saves a batch. -/
def translateBatch (batch : Batch) (state : RunState) :
    RunState × Except TranslateError Reconciled :=
  match run.requestBatch batch state with
  | (state, .error reason) => (state, .error (.service batch.index reason))
  | (state, .ok reply) =>
    match state.account? batch.index reply.usage with
    | none => (state, .error (.panicked batch.index))
    | some state =>
      match ReplyObject.read reply.text with
      | .error fault => (state, .error (.shape batch.index fault))
      | .ok candidate =>
        let reconciled := reconcileBatch batch.nodes candidate
        match run.saveBatch state.tree batch reconciled with
        | (tree, .error error) =>
          ({ state with tree }, .error (.persist batch.index error.message))
        | (tree, .ok ()) => ({ state with tree }, .ok reconciled)

/-- Resumes or translates a batch and merges its nodes into the result. -/
def processBatch (total : Nat) (batch : Batch) (state : RunState) :
    RunState × Except TranslateError Unit :=
  match run.savedBatch? state.tree batch with
  | some saved =>
    let state := { state with resumed := state.resumed + 1 }.report
      (.batchResumed batch.index total)
    ((state.register (run.dirs.batchFile batch.index)).merge saved, .ok ())
  | none =>
    let state := state.report (.batchStarted batch.index total batch.nodeNames)
    match run.translateBatch batch state with
    | (state, .error error) => (state, .error error)
    | (state, .ok reconciled) =>
      let state := { state with batchLog := state.batchLog ++ reconciled.log }.report
        (.batchCompleted batch.index total reconciled.log.length)
      ((state.register (run.dirs.batchFile batch.index)).merge reconciled.nodes, .ok ())

/-- Goes through the batches. Gives the number of finished batches if the run is cancelled. -/
def processBatches (total : Nat) : List Batch → RunState →
    RunState × Except TranslateError (Option Nat)
  | [], state => (state, .ok none)
  | batch :: rest, state =>
    if run.cancel (.before batch.index) state.events then
      (state, .ok (some (batch.index - 1)))
    else
      match run.processBatch total batch state with
      | (state, .error error) => (state, .error error)
      | (state, .ok ()) =>
        if run.cancel (.after batch.index) state.events && batch.index < total then
          (state, .ok (some batch.index))
        else processBatches total rest state

/-- Applies the glossary, if there is one. Also gives the number of labels that it replaced. -/
def applyGlossary (validated : Reconciled) : Reconciled × Nat :=
  match run.options.glossary with
  | none => (validated, 0)
  | some glossary => (glossary.apply validated, glossary.overrides validated.nodes)

/-- Saves the result and its log. -/
def saveResult (tree : FileTree) (result : Reconciled) :
    FileTree × Except ArtifactError Unit :=
  result.save tree run.dirs.finalFile run.dirs.finalLogFile

/-- Removes files, passing over those that cannot be removed. -/
def removeFiles (tree : FileTree) (paths : List Path) : FileTree :=
  paths.foldl (fun tree path => (tree.removeFile path).toOption.getD tree) tree

/-- Removes what was kept for resuming, unless it is to stay. -/
def cleanUp (state : RunState) : RunState :=
  if run.options.keepTemp then state
  else { state with tree := removeFiles state.tree state.tempFiles, tempFiles := [] }

/-- Validates the merged result, saves it and cleans up. -/
def finish (pending : NodeMap) (total : Nat) (state : RunState) :
    RunState × Except TranslateError RunOutcome :=
  let (result, overrides) := run.applyGlossary (finalValidation pending state.merged)
  let state := state.report (.finalValidation result.log.length)
  match run.saveResult state.tree result with
  | (tree, .error error) => ({ state with tree }, .error (.finalize error.message))
  | (tree, .ok ()) =>
    let state := run.cleanUp { state with tree }
    (state, .ok (.completed {
      nodes := result.nodes
      finalFile := run.dirs.finalFile
      totalBatches := total
      resumedBatches := state.resumed
      batchLog := state.batchLog
      finalLog := result.log
      glossaryOverrides := overrides
      tokens := state.tokens
      tempFiles := state.tempFiles
      cost := state.tokens.cost run.options.promptCostPer1k run.options.completionCostPer1k }))

/-- Translates nodes. -/
def execute (tree : FileTree) (nodes : NodeMap) :
    RunState × Except TranslateError RunOutcome :=
  let pending := nodes.withoutSources
  match Artifact.saveJson tree run.dirs.pendingFile pending.toJson with
  | (tree, .error error) => ({ tree }, .error (.prepare error.message))
  | (tree, .ok ()) =>
    let batches := Batch.partition run.options.batchSize pending
    let total := batches.length
    let state : RunState := { tree }
    let state := (state.register run.dirs.pendingFile).report (.started pending.size total)
    match run.processBatches total batches state with
    | (state, .error error) => (state, .error error)
    | (state, .ok (some completed)) => (state, .ok (.cancelled completed total))
    | (state, .ok none) => run.finish pending total state

end LocalizationRun

end NodeLocale
