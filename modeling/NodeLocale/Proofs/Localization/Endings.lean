import NodeLocale.Proofs.Localization.Steps

/-!
# How a run goes on and ends

`Processed` relates the states before and after some batches, each of which was resumed or
translated without the run being cancelled before it. Whatever a batch preserves is preserved by a
whole run by induction over `Processed`, batch by batch in the order of the run. Going through the
batches ends when all are processed, when the cancel signal is seen, or when a batch fails; and
a run ends so as well, unless it is not even prepared.
-/

namespace NodeLocale

namespace LocalizationRun

variable (run : LocalizationRun) (total : Nat)

/-- Whether batches were processed one after another. -/
inductive Processed : List Batch → RunState → RunState → Prop
  | none (state : RunState) : Processed [] state state
  | next {done : List Batch} {batch : Batch} {first before after : RunState}
      (earlier : Processed done first before)
      (unseen : run.cancel (.before batch.index) before.events = false)
      (step : BatchStep run total batch before after (.ok ())) :
      Processed (done ++ [batch]) first after

/-- How going through batches may end. -/
inductive BatchesEnd (batches : List Batch) (first : RunState) :
    RunState → Except TranslateError (Option Nat) → Prop
  | finished {last : RunState} (processed : Processed run total batches first last) :
      BatchesEnd batches first last (.ok none)
  | cancelledBefore {done rest : List Batch} {batch : Batch} {last : RunState}
      (split : batches = done ++ batch :: rest)
      (processed : Processed run total done first last)
      (seen : run.cancel (.before batch.index) last.events = true) :
      BatchesEnd batches first last (.ok (some (batch.index - 1)))
  | cancelledAfter {done rest : List Batch} {batch : Batch} {last : RunState}
      (split : batches = done ++ batch :: rest)
      (processed : Processed run total (done ++ [batch]) first last)
      (seen : run.cancel (.after batch.index) last.events = true)
      (more : batch.index < total) :
      BatchesEnd batches first last (.ok (some batch.index))
  | failed {done rest : List Batch} {batch : Batch} {before last : RunState}
      {error : TranslateError} (split : batches = done ++ batch :: rest)
      (processed : Processed run total done first before)
      (step : BatchStep run total batch before last (.error error)) :
      BatchesEnd batches first last (.error error)

variable {run total}

/-- Going through the rest of the batches after some of them. -/
theorem batchesEnd_processBatches {done : List Batch} (rest : List Batch)
    {first state : RunState}
    (processed : Processed run total done first state) :
    BatchesEnd run total (done ++ rest) first (run.processBatches total rest state).1
      (run.processBatches total rest state).2 := by
  induction rest generalizing done state with
  | nil =>
    rw [processBatches, List.append_nil]
    exact .finished processed
  | cons batch rest ih =>
    rw [processBatches]
    split
    · rename_i seen
      exact .cancelledBefore rfl processed seen
    · rename_i unseen
      have step := batchStep_processBatch run total batch state
      split
      · rename_i after error ended
        rw [ended] at step
        exact .failed rfl processed step
      · rename_i after ended
        rw [ended] at step
        have longer := processed.next (Bool.eq_false_iff.2 unseen) step
        split
        · rename_i seen
          rw [Bool.and_eq_true, decide_eq_true_eq] at seen
          exact .cancelledAfter rfl longer seen.1 seen.2
        · have ends := ih longer
          rwa [List.append_assoc, List.singleton_append] at ends

theorem processBatches_cons {batch : Batch} {rest : List Batch} {state : RunState}
    (untouched : run.cancel = .never) :
    run.processBatches total (batch :: rest) state =
      match run.processBatch total batch state with
      | (state, .error error) => (state, .error error)
      | (state, .ok ()) => run.processBatches total rest state := by
  rw [processBatches, untouched]
  simp only [CancelSignal.never, Bool.false_and]
  rfl

/-- A run that nobody cancels takes up after its processed batches. -/
theorem Processed.processBatches_append {done rest : List Batch} {first state : RunState}
    (processed : Processed run total done first state) (untouched : run.cancel = .never) :
    run.processBatches total (done ++ rest) first = run.processBatches total rest state := by
  induction processed generalizing rest with
  | none => rfl
  | next earlier unseen step ih =>
    rw [List.append_assoc, List.singleton_append, ih, processBatches_cons untouched,
      batchStep_iff.1 step]

variable (run)

/-- The batches of a run. -/
def batches (nodes : NodeMap) : List Batch :=
  Batch.partition run.options.batchSize nodes.withoutSources

/-- The state in which a run starts on its batches. -/
def opening (tree : FileTree) (nodes : NodeMap) : RunState :=
  ({ tree : RunState }.register run.dirs.pendingFile).report
    (.started nodes.withoutSources.size (run.batches nodes).length)

/-- How a run may end. -/
inductive RunEnd (tree : FileTree) (nodes : NodeMap) :
    RunState → Except TranslateError RunOutcome → Prop
  | unprepared {after : FileTree} {error : ArtifactError}
      (unsaved : Artifact.saveJson tree run.dirs.pendingFile nodes.withoutSources.toJson =
        (after, .error error)) :
      RunEnd tree nodes { tree := after } (.error (.prepare error.message))
  | failed {prepared : FileTree} {last : RunState} {error : TranslateError}
      (saved : Artifact.saveJson tree run.dirs.pendingFile nodes.withoutSources.toJson =
        (prepared, .ok ()))
      (ended : BatchesEnd run (run.batches nodes).length (run.batches nodes)
        (run.opening prepared nodes) last (.error error)) :
      RunEnd tree nodes last (.error error)
  | cancelled {prepared : FileTree} {last : RunState} {completed : Nat}
      (saved : Artifact.saveJson tree run.dirs.pendingFile nodes.withoutSources.toJson =
        (prepared, .ok ()))
      (ended : BatchesEnd run (run.batches nodes).length (run.batches nodes)
        (run.opening prepared nodes) last (.ok (some completed))) :
      RunEnd tree nodes last (.ok (.cancelled completed (run.batches nodes).length))
  | finished {prepared : FileTree} {last after : RunState}
      {result : Except TranslateError RunOutcome}
      (saved : Artifact.saveJson tree run.dirs.pendingFile nodes.withoutSources.toJson =
        (prepared, .ok ()))
      (processed : Processed run (run.batches nodes).length (run.batches nodes)
        (run.opening prepared nodes) last)
      (ended : run.finish nodes.withoutSources (run.batches nodes).length last =
        (after, result)) :
      RunEnd tree nodes after result

/-- A prepared run goes through its batches and finishes. -/
theorem execute_of_saved {tree prepared : FileTree} {nodes : NodeMap}
    (saved : Artifact.saveJson tree run.dirs.pendingFile nodes.withoutSources.toJson =
      (prepared, .ok ())) :
    run.execute tree nodes =
      match run.processBatches (run.batches nodes).length (run.batches nodes)
        (run.opening prepared nodes) with
      | (state, .error error) => (state, .error error)
      | (state, .ok (some completed)) =>
        (state, .ok (.cancelled completed (run.batches nodes).length))
      | (state, .ok none) =>
        run.finish nodes.withoutSources (run.batches nodes).length state := by
  unfold execute
  dsimp only
  rw [saved]
  rfl

/-- A run whose pending nodes cannot be saved ends there. -/
theorem execute_of_unsaved {tree after : FileTree} {nodes : NodeMap} {error : ArtifactError}
    (unsaved : Artifact.saveJson tree run.dirs.pendingFile nodes.withoutSources.toJson =
      (after, .error error)) :
    run.execute tree nodes = ({ tree := after }, .error (.prepare error.message)) := by
  unfold execute
  dsimp only
  rw [unsaved]

theorem runEnd_execute (tree : FileTree) (nodes : NodeMap) :
    RunEnd run tree nodes (run.execute tree nodes).1 (run.execute tree nodes).2 := by
  rcases saved : Artifact.saveJson tree run.dirs.pendingFile nodes.withoutSources.toJson
    with ⟨prepared, outcome⟩
  cases outcome with
  | error error =>
    rw [execute_of_unsaved run saved]
    exact .unprepared saved
  | ok =>
    rw [execute_of_saved run saved]
    have ends := batchesEnd_processBatches (run.batches nodes)
      (.none (run.opening prepared nodes) : Processed run (run.batches nodes).length [] _ _)
    rw [List.nil_append] at ends
    split <;> rename_i reached <;> rw [reached] at ends
    · exact .failed saved ends
    · exact .cancelled saved ends
    · cases ends with
      | finished processed => exact .finished saved processed rfl

/-! ### Finishing -/

variable (pending : NodeMap) (total : Nat)

/-- The validated result under the glossary. -/
def validated (before : RunState) : Reconciled :=
  (run.applyGlossary (finalValidation pending before.merged)).1

/-- The state after the result was saved. -/
def afterResult (before : RunState) (tree : FileTree) : RunState :=
  run.cleanUp { before.report
    (.finalValidation (run.validated pending before).log.length) with tree }

/-- The result that a run gives in the end. -/
def completion (before after : RunState) : CompletedRun where
  nodes := (run.validated pending before).nodes
  finalFile := run.dirs.finalFile
  totalBatches := total
  resumedBatches := after.resumed
  batchLog := after.batchLog
  finalLog := (run.validated pending before).log
  glossaryOverrides := (run.applyGlossary (finalValidation pending before.merged)).2
  tokens := after.tokens
  tempFiles := after.tempFiles
  cost := after.tokens.cost run.options.promptCostPer1k run.options.completionCostPer1k

variable {run pending total} {before : RunState} {tree : FileTree}

theorem tree_afterResult : (run.afterResult pending before tree).tree =
    if run.options.keepTemp then tree else removeFiles tree before.tempFiles := by
  rw [afterResult, cleanUp]
  split <;> rfl

@[simp]
theorem resumed_afterResult : (run.afterResult pending before tree).resumed = before.resumed := by
  rw [afterResult, cleanUp]
  split <;> rfl

@[simp]
theorem batchLog_afterResult :
    (run.afterResult pending before tree).batchLog = before.batchLog := by
  rw [afterResult, cleanUp]
  split <;> rfl

@[simp]
theorem requests_afterResult :
    (run.afterResult pending before tree).requests = before.requests := by
  rw [afterResult, cleanUp]
  split <;> rfl

theorem finish_of_saved
    (saved : run.saveResult before.tree (run.validated pending before) = (tree, .ok ())) :
    run.finish pending total before = (run.afterResult pending before tree,
      .ok (.completed (run.completion pending total before
        (run.afterResult pending before tree)))) := by
  rw [validated] at saved
  unfold finish
  dsimp only [RunState.report]
  rw [saved]
  rfl

theorem finish_of_unsaved {error : ArtifactError}
    (unsaved : run.saveResult before.tree (run.validated pending before) =
      (tree, .error error)) :
    run.finish pending total before = ({ before.report
      (.finalValidation (run.validated pending before).log.length) with tree },
        .error (.finalize error.message)) := by
  rw [validated] at unsaved
  unfold finish
  dsimp only [RunState.report]
  rw [unsaved]
  rfl

/-- Finishing requests nothing. -/
theorem requests_finish :
    (run.finish pending total before).1.requests = before.requests := by
  rcases kept : run.saveResult before.tree (run.validated pending before) with ⟨tree, ⟨⟩ | ⟨⟩⟩
  · rw [finish_of_unsaved kept]
    rfl
  · rw [finish_of_saved kept]
    exact requests_afterResult

/-- A run that finished has saved its result. -/
theorem saved_of_finish_eq_ok {after : RunState} {outcome : RunOutcome}
    (finished : run.finish pending total before = (after, .ok outcome)) :
    ∃ tree, run.saveResult before.tree (run.validated pending before) = (tree, .ok ()) ∧
      after = run.afterResult pending before tree ∧
        outcome = .completed (run.completion pending total before after) := by
  rcases kept : run.saveResult before.tree (run.validated pending before) with ⟨tree, result⟩
  cases result with
  | error error =>
    rw [finish_of_unsaved kept] at finished
    simp at finished
  | ok =>
    rw [finish_of_saved kept] at finished
    simp only [Prod.mk.injEq, Except.ok.injEq] at finished
    obtain ⟨rfl, rfl⟩ := finished
    exact ⟨tree, rfl, rfl, rfl⟩

theorem finish_eq_error {after : RunState} {error : TranslateError}
    (failed : run.finish pending total before = (after, .error error)) :
    ∃ reason, error = .finalize reason := by
  rcases kept : run.saveResult before.tree (run.validated pending before) with ⟨tree, reason | _⟩
  · rw [finish_of_unsaved kept] at failed
    exact ⟨_, (Except.error.inj (Prod.mk.inj failed).2).symm⟩
  · rw [finish_of_saved kept] at failed
    simp at failed

/-- A run that completed has gone through its batches, processed all of them and saved its
result. -/
theorem processed_of_completed {start : FileTree} {nodes : NodeMap} {result : CompletedRun}
    (completed : (run.execute start nodes).2 = .ok (.completed result)) :
    ∃ prepared last tree,
      Artifact.saveJson start run.dirs.pendingFile nodes.withoutSources.toJson =
        (prepared, .ok ()) ∧
      run.processBatches (run.batches nodes).length (run.batches nodes)
        (run.opening prepared nodes) = (last, .ok none) ∧
      Processed run (run.batches nodes).length (run.batches nodes)
        (run.opening prepared nodes) last ∧
      run.saveResult last.tree (run.validated nodes.withoutSources last) = (tree, .ok ()) ∧
      (run.execute start nodes).1 = run.afterResult nodes.withoutSources last tree ∧
      result = run.completion nodes.withoutSources (run.batches nodes).length last
        (run.execute start nodes).1 := by
  rcases saved : Artifact.saveJson start run.dirs.pendingFile nodes.withoutSources.toJson
    with ⟨prepared, ⟨⟩ | ⟨⟩⟩
  · rw [execute_of_unsaved run saved] at completed
    simp at completed
  have ends := batchesEnd_processBatches (run.batches nodes)
    (.none (run.opening prepared nodes) : Processed run (run.batches nodes).length [] _ _)
  have whole := execute_of_saved run saved
  generalize run.execute start nodes = ended at completed whole ⊢
  obtain ⟨after, outcome⟩ := ended
  obtain rfl : outcome = .ok (.completed result) := completed
  rcases went : run.processBatches (run.batches nodes).length (run.batches nodes)
    (run.opening prepared nodes) with ⟨last, error | _ | stoppedAt⟩
  all_goals rw [went] at whole ends
  · simp at whole
  · cases ends with
    | finished processed =>
      obtain ⟨tree, kept, reached, outcome⟩ := saved_of_finish_eq_ok whole.symm
      rw [RunOutcome.completed.injEq] at outcome
      exact ⟨prepared, last, tree, rfl, went, processed, kept, reached, outcome⟩
  · simp at whole

/-- A result counts the batches that its run resumed. -/
theorem resumedBatches_of_completed {start : FileTree} {nodes : NodeMap} {result : CompletedRun}
    (completed : (run.execute start nodes).2 = .ok (.completed result)) :
    result.resumedBatches = (run.execute start nodes).1.resumed := by
  obtain ⟨_, _, _, _, _, _, _, _, counted⟩ := processed_of_completed completed
  rw [counted, completion]

theorem totalBatches_of_completed {start : FileTree} {nodes : NodeMap} {result : CompletedRun}
    (completed : (run.execute start nodes).2 = .ok (.completed result)) :
    result.totalBatches = (run.batches nodes).length := by
  obtain ⟨_, _, _, _, _, _, _, _, counted⟩ := processed_of_completed completed
  rw [counted, completion]

theorem Processed.resumed_eq (notToResume : run.options.resume = false) {done : List Batch}
    {first last : RunState} (processed : Processed run total done first last) :
    last.resumed = first.resumed := by
  induction processed with
  | none => rfl
  | @next done batch first before after earlier unseen step ih =>
    have absent : (run.savedBatch? before.tree batch).isSome = false := by
      simp [savedBatch?, notToResume]
    rw [resumed_of_step step, absent, ih]
    rfl

/-- A run that is not to resume its batches counts none as resumed. -/
theorem resumedBatches_eq_zero (notToResume : run.options.resume = false) {start : FileTree}
    {nodes : NodeMap} {result : CompletedRun}
    (completed : (run.execute start nodes).2 = .ok (.completed result)) :
    result.resumedBatches = 0 := by
  obtain ⟨_, _, _, _, _, processed, _, reached, counted⟩ := processed_of_completed completed
  rw [counted, completion, reached, resumed_afterResult, processed.resumed_eq notToResume]
  rfl

/-- The result of a run, if it completed. -/
def completedRun? : Except TranslateError RunOutcome → Option CompletedRun
  | .ok (.completed result) => some result
  | _ => none

theorem completedRun?_eq_some_iff {ended : Except TranslateError RunOutcome}
    {result : CompletedRun} :
    completedRun? ended = some result ↔ ended = .ok (.completed result) := by
  rcases ended with error | result | _ <;> simp [completedRun?]

/-- The error with which a run ended. -/
def failure? : Except TranslateError RunOutcome → Option TranslateError
  | .error error => some error
  | .ok _ => none

theorem failure?_eq_some_iff {ended : Except TranslateError RunOutcome} {error : TranslateError} :
    failure? ended = some error ↔ ended = .error error := by
  rcases ended with error | outcome <;> simp [failure?]

/-! ### Runs that panic -/

variable (run) in
/-- Whether a run panics. -/
def Panics (start : FileTree) (nodes : NodeMap) : Prop :=
  ∃ batch, (run.execute start nodes).2 = .error (.panicked batch)

/-- A run panics at a batch of which it cannot count the tokens. -/
theorem step_of_panics {start : FileTree} {nodes : NodeMap} (panics : run.Panics start nodes) :
    ∃ batch ∈ run.batches nodes, ∃ index before last,
      BatchStep run (run.batches nodes).length batch before last (.error (.panicked index)) := by
  rcases panics with ⟨index, panicked⟩
  have ends := runEnd_execute run start nodes
  rw [panicked] at ends
  generalize (run.execute start nodes).1 = after at ends
  cases ends with
  | failed saved ended =>
    cases ended with
    | failed split processed step => exact ⟨_, by simp [split], _, _, _, step⟩
  | finished saved processed ended =>
    rcases finish_eq_error ended with ⟨reason, other⟩
    simp at other

/-- A run whose service tells no usage does not panic. -/
theorem not_panics_of_untold {start : FileTree} {nodes : NodeMap}
    (untold : ∀ batch ∈ run.batches nodes, ∀ tree reply,
      (run.service tree (run.request batch)).2 = .ok reply → reply.usage = none) :
    ¬run.Panics start nodes := by
  intro panics
  rcases step_of_panics panics with ⟨batch, member, index, before, last, step⟩
  cases step with
  | panicked absent answered uncounted =>
    rcases TokenUsage.recordTold?_eq_none_iff.1 uncounted with ⟨usage, told, -⟩
    simp [untold batch member _ _ answered] at told

/-! ### A small run -/

/-- A node to translate. -/
def sampleNode : NodeMap :=
  .ofList [("Blur", { title := "Blur", inputs := .ofList [("image", "image")] })]

/-- Two nodes to translate. -/
def sampleNodes : NodeMap := sampleNode.insert "Mix" { title := "Mix" }

/-- Options of a run with one node in a batch. -/
def sampleOptions : RunOptions where
  batchSize := 1
  systemPrompt := ""
  glossary := none
  promptCostPer1k := ⟨0⟩
  completionCostPer1k := ⟨0⟩

/-- The directories of a plugin of a given name below the directory `out`. -/
def sampleDirs (plugin : String) : OutputDirs := .ofPlugin ⟨"out"⟩ ⟨plugin⟩

/-- A run for the plugin `pack` whose replies are texts. -/
def sampleRun (replies : LocalizationRequest → String) : LocalizationRun where
  service := .ofReplies fun request => .ok { text := replies request }
  options := sampleOptions
  dirs := sampleDirs "pack"

end LocalizationRun

end NodeLocale
