import NodeLocale.Localization.Run

/-!
# Steps of a run

A batch ends in one of six ways: it is resumed, the service fails, the tokens of the reply cannot be
counted, the reply holds no object, the repaired batch cannot be saved, or it is translated.
`BatchStep` says of each what it leaves behind, and is the graph of `processBatch`.
-/

namespace NodeLocale

/-- The counts of tokens with what a reply tells of them, if they fit. -/
def TokenUsage.recordTold? (counts : TokenUsage) : Option TokenUsage → Option TokenUsage
  | none => some counts
  | some usage => counts.record? usage

theorem TokenUsage.recordTold?_eq_none_iff {counts : TokenUsage} {told : Option TokenUsage} :
    counts.recordTold? told = none ↔ ∃ usage, told = some usage ∧ counts.record? usage = none := by
  cases told <;> simp [recordTold?]

/-- What is reported about the usage of tokens, with the counts behind it. -/
def usageReports (batch : Nat) (counts : TokenUsage) : Option TokenUsage → List RunEvent
  | none => []
  | some usage => [.batchUsage batch usage counts.total]

/-- Taking account of a reply adds to the counts and to the reports, and to nothing else. -/
theorem RunState.account?_eq (state : RunState) (batch : Nat) (usage : Option TokenUsage) :
    state.account? batch usage = (state.tokens.recordTold? usage).map fun tokens =>
      { state with tokens, events := state.events ++ usageReports batch tokens usage } := by
  cases usage with
  | none => simp [account?, TokenUsage.recordTold?, usageReports]
  | some usage =>
    rw [account?, TokenUsage.recordTold?]
    cases state.tokens.record? usage <;> rfl

/-- Nodes and log are saved one after the other. -/
theorem Reconciled.save_eq_ok_iff {reconciled : Reconciled} {tree after : FileTree}
    {nodesFile logFile : Path} :
    reconciled.save tree nodesFile logFile = (after, .ok ()) ↔
      ∃ between,
        Artifact.saveText tree nodesFile (Artifact.text reconciled.nodes.toJson) =
          (between, .ok ()) ∧
        Artifact.saveText between logFile (Artifact.linesText reconciled.log.lines) =
          (after, .ok ()) := by
  unfold save Artifact.saveJson Artifact.saveLines
  rcases Artifact.saveText tree nodesFile (Artifact.text reconciled.nodes.toJson)
    with ⟨between, outcome⟩
  cases outcome <;> simp

namespace LocalizationRun

variable (run : LocalizationRun) (total : Nat) (batch : Batch)

/-- What the service is asked for a batch. -/
def request : LocalizationRequest := .ofBatch run.options.systemPrompt batch

/-- The state after a batch was resumed. -/
def afterResuming (saved : NodeMap) (before : RunState) : RunState :=
  (({ before with resumed := before.resumed + 1 }.report (.batchResumed batch.index total)).register
    (run.dirs.batchFile batch.index)).merge saved

/-- The state after the service was asked for a batch. -/
def afterRequest (before : RunState) : RunState :=
  { before.report (.batchStarted batch.index total batch.nodeNames) with
    tree := (run.service before.tree (run.request batch)).1
    requests := before.requests ++ [run.request batch] }

/-- The state after the usage of a reply was counted. -/
def afterReply (usage : Option TokenUsage) (tokens : TokenUsage) (before : RunState) : RunState :=
  { run.afterRequest total batch before with
    tokens
    events := (run.afterRequest total batch before).events ++
      usageReports batch.index tokens usage }

/-- The state after a batch was repaired and saved. -/
def afterSaving (reconciled : Reconciled) (before : RunState) : RunState :=
  (({ before with batchLog := before.batchLog ++ reconciled.log }.report
    (.batchCompleted batch.index total reconciled.log.length)).register
      (run.dirs.batchFile batch.index)).merge reconciled.nodes

/-- How processing a batch may end. -/
inductive BatchStep (before : RunState) : RunState → Except TranslateError Unit → Prop
  | resumed {saved : NodeMap} (found : run.savedBatch? before.tree batch = some saved) :
      BatchStep before (run.afterResuming total batch saved before) (.ok ())
  | serviceFailed {reason : String} (absent : run.savedBatch? before.tree batch = none)
      (answered : (run.service before.tree (run.request batch)).2 = .error reason) :
      BatchStep before (run.afterRequest total batch before)
        (.error (.service batch.index reason))
  | panicked {reply : ServiceReply} (absent : run.savedBatch? before.tree batch = none)
      (answered : (run.service before.tree (run.request batch)).2 = .ok reply)
      (uncounted : before.tokens.recordTold? reply.usage = none) :
      BatchStep before (run.afterRequest total batch before) (.error (.panicked batch.index))
  | replyUnusable {reply : ServiceReply} {tokens : TokenUsage} {fault : ReplyFault}
      (absent : run.savedBatch? before.tree batch = none)
      (answered : (run.service before.tree (run.request batch)).2 = .ok reply)
      (counted : before.tokens.recordTold? reply.usage = some tokens)
      (unread : ReplyObject.read reply.text = .error fault) :
      BatchStep before (run.afterReply total batch reply.usage tokens before)
        (.error (.shape batch.index fault))
  | notSaved {reply : ServiceReply} {tokens : TokenUsage} {candidate : JsonObject}
      {tree : FileTree} {error : ArtifactError}
      (absent : run.savedBatch? before.tree batch = none)
      (answered : (run.service before.tree (run.request batch)).2 = .ok reply)
      (counted : before.tokens.recordTold? reply.usage = some tokens)
      (read : ReplyObject.read reply.text = .ok candidate)
      (unsaved : run.saveBatch (run.afterRequest total batch before).tree batch
        (reconcileBatch batch.nodes candidate) = (tree, .error error)) :
      BatchStep before { run.afterReply total batch reply.usage tokens before with tree }
        (.error (.persist batch.index error.message))
  | translated {reply : ServiceReply} {tokens : TokenUsage} {candidate : JsonObject}
      {tree : FileTree} (absent : run.savedBatch? before.tree batch = none)
      (answered : (run.service before.tree (run.request batch)).2 = .ok reply)
      (counted : before.tokens.recordTold? reply.usage = some tokens)
      (read : ReplyObject.read reply.text = .ok candidate)
      (saved : run.saveBatch (run.afterRequest total batch before).tree batch
        (reconcileBatch batch.nodes candidate) = (tree, .ok ())) :
      BatchStep before
        (run.afterSaving total batch (reconcileBatch batch.nodes candidate)
          { run.afterReply total batch reply.usage tokens before with tree })
        (.ok ())

theorem batchStep_processBatch (before : RunState) :
    BatchStep run total batch before (run.processBatch total batch before).1
      (run.processBatch total batch before).2 := by
  cases found : run.savedBatch? before.tree batch with
  | some saved =>
    have resumed : run.processBatch total batch before =
        (run.afterResuming total batch saved before, .ok ()) := by
      simp only [processBatch, found]
      rfl
    rw [resumed]
    exact .resumed found
  | none =>
    have asked : run.requestBatch batch
        (before.report (.batchStarted batch.index total batch.nodeNames)) =
          (run.afterRequest total batch before,
            (run.service before.tree (run.request batch)).2) := rfl
    cases answered : (run.service before.tree (run.request batch)).2 with
    | error reason =>
      have failed : run.processBatch total batch before =
          (run.afterRequest total batch before, .error (.service batch.index reason)) := by
        simp only [processBatch, found, translateBatch, asked, answered]
      rw [failed]
      exact .serviceFailed found answered
    | ok reply =>
      have accounted : (run.afterRequest total batch before).account? batch.index reply.usage =
          (before.tokens.recordTold? reply.usage).map fun tokens =>
            run.afterReply total batch reply.usage tokens before :=
        RunState.account?_eq ..
      cases counted : before.tokens.recordTold? reply.usage with
      | none =>
        have failed : run.processBatch total batch before =
            (run.afterRequest total batch before, .error (.panicked batch.index)) := by
          simp only [processBatch, found, translateBatch, asked, answered, accounted, counted,
            Option.map_none]
        rw [failed]
        exact .panicked found answered counted
      | some tokens =>
        rw [counted, Option.map_some] at accounted
        cases read : ReplyObject.read reply.text with
        | error fault =>
          have failed : run.processBatch total batch before =
              (run.afterReply total batch reply.usage tokens before,
                .error (.shape batch.index fault)) := by
            simp only [processBatch, found, translateBatch, asked, answered, accounted, read]
          rw [failed]
          exact .replyUnusable found answered counted read
        | ok candidate =>
          rcases kept : run.saveBatch (run.afterReply total batch reply.usage tokens before).tree
            batch (reconcileBatch batch.nodes candidate) with ⟨tree, outcome⟩
          cases outcome with
          | error error =>
            have failed : run.processBatch total batch before =
                ({ run.afterReply total batch reply.usage tokens before with tree },
                  .error (.persist batch.index error.message)) := by
              simp only [processBatch, found, translateBatch, asked, answered, accounted, read,
                kept]
            rw [failed]
            exact .notSaved found answered counted read kept
          | ok =>
            have saved : run.processBatch total batch before =
                (run.afterSaving total batch (reconcileBatch batch.nodes candidate)
                  { run.afterReply total batch reply.usage tokens before with tree }, .ok ()) := by
              simp only [processBatch, found, translateBatch, asked, answered, accounted, read,
                kept]
              rfl
            rw [saved]
            exact .translated found answered counted read kept

variable {run total batch}

/-- A batch ends in one way only. -/
theorem BatchStep.unique {before left right : RunState}
    {leftEnd rightEnd : Except TranslateError Unit}
    (first : BatchStep run total batch before left leftEnd)
    (second : BatchStep run total batch before right rightEnd) :
    left = right ∧ leftEnd = rightEnd := by
  cases first <;> cases second <;> simp_all

/-- The steps of a batch are what processing it does. -/
theorem batchStep_iff {before after : RunState} {result : Except TranslateError Unit} :
    BatchStep run total batch before after result ↔
      run.processBatch total batch before = (after, result) := by
  constructor
  · intro step
    exact Prod.ext_iff.2 ((batchStep_processBatch run total batch before).unique step)
  · intro processed
    have step := batchStep_processBatch run total batch before
    rwa [processed] at step

/-! ### Runs that differ in what no batch depends on -/

section Changed

variable {keepTemp : Bool} {signal : CancelSignal}

theorem savedBatch?_changed (tree : FileTree) (batch : Batch) :
    savedBatch? { run with options := { run.options with keepTemp }, cancel := signal } tree
      batch = run.savedBatch? tree batch := by
  rw [savedBatch?, savedBatch?]

/-- The steps of a batch depend neither on the cancel signal nor on what is removed in the end. -/
theorem BatchStep.changed {before after : RunState} {result : Except TranslateError Unit}
    (step : BatchStep run total batch before after result) :
    BatchStep { run with options := { run.options with keepTemp }, cancel := signal } total batch
      before after result := by
  have sameSaved : savedBatch?
      { run with options := { run.options with keepTemp }, cancel := signal } before.tree batch =
        _ := savedBatch?_changed before.tree batch
  cases step with
  | resumed found => exact .resumed (sameSaved.trans found)
  | serviceFailed absent answered => exact .serviceFailed (sameSaved.trans absent) answered
  | panicked absent answered uncounted =>
    exact .panicked (sameSaved.trans absent) answered uncounted
  | replyUnusable absent answered counted unread =>
    exact .replyUnusable (sameSaved.trans absent) answered counted unread
  | notSaved absent answered counted read unsaved =>
    exact .notSaved (sameSaved.trans absent) answered counted read unsaved
  | translated absent answered counted read saved =>
    exact .translated (sameSaved.trans absent) answered counted read saved

theorem processBatch_changed (before : RunState) :
    processBatch { run with options := { run.options with keepTemp }, cancel := signal } total
      batch before = run.processBatch total batch before :=
  batchStep_iff.1 (batchStep_processBatch run total batch before).changed

end Changed

/-- A batch is counted as resumed if its saved nodes are used. -/
theorem resumed_of_step {before after : RunState} {result : Except TranslateError Unit}
    (step : BatchStep run total batch before after result) :
    after.resumed =
      before.resumed + if (run.savedBatch? before.tree batch).isSome then 1 else 0 := by
  cases step with
  | resumed found => simp [found, afterResuming, RunState.report, RunState.register, RunState.merge]
  | serviceFailed absent answered => simp [absent, afterRequest, RunState.report]
  | panicked absent answered uncounted => simp [absent, afterRequest, RunState.report]
  | replyUnusable absent answered counted unread =>
    simp [absent, afterReply, afterRequest, RunState.report]
  | notSaved absent answered counted read unsaved =>
    simp [absent, afterReply, afterRequest, RunState.report]
  | translated absent answered counted read saved =>
    simp [absent, afterSaving, afterReply, afterRequest, RunState.report, RunState.register,
      RunState.merge]

theorem resumed_le_of_step {before after : RunState} {result : Except TranslateError Unit}
    (step : BatchStep run total batch before after result) : before.resumed ≤ after.resumed := by
  rw [resumed_of_step step]
  exact Nat.le_add_right _ _

/-- A batch fails only after it was requested. -/
theorem requested_of_step {before last : RunState} {error : TranslateError}
    (step : BatchStep run total batch before last (.error error)) :
    run.savedBatch? before.tree batch = none ∧
      last.requests = before.requests ++ [run.request batch] ∧
      error.batch? = some batch.index := by
  cases step with
  | serviceFailed absent answered => exact ⟨absent, rfl, rfl⟩
  | panicked absent answered uncounted => exact ⟨absent, rfl, rfl⟩
  | replyUnusable absent answered counted unread => exact ⟨absent, rfl, rfl⟩
  | notSaved absent answered counted read unsaved => exact ⟨absent, rfl, rfl⟩

end LocalizationRun

end NodeLocale
