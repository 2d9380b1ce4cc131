import NodeLocale.Proofs.Localization.Batches
import NodeLocale.Proofs.Localization.Lockstep
import NodeLocale.Proofs.Localization.Writability

/-!
# Resuming an interrupted run

A run that stops in the middle, and then goes on with what it saved, comes to the same end as a
run that never stopped. Up to the stop the uninterrupted run goes in lockstep with the interrupted
one, so it reaches the same files. The resuming run starts from these files: it finds the pending
nodes saved already, takes every batch that was processed from its file, and is then where the
uninterrupted run is; from there on they go in lockstep.
-/

namespace NodeLocale

namespace LocalizationRun

variable {replies later : LocalizationRequest → Except String ServiceReply}
  {options : RunOptions} {dirs : OutputDirs} {cancel : CancelSignal} {total : Nat}
  {nodes : NodeMap} {tree : FileTree}

/-- Whether a run was stopped between its start and its end: by its service or by its cancel
signal. -/
def stopped : Except TranslateError RunOutcome → Bool
  | .error (.service _ _) => true
  | .error (.shape _ _) => true
  | .ok (.cancelled _ _) => true
  | _ => false

/-- Batches that were processed are resumed from a tree that shows their files. -/
theorem Processed.resume {done : List Batch} {first last other : RunState}
    (processed : Processed (replying replies options dirs cancel) total done first last)
    (fresh : Fresh dirs done first.tree) (sameMerged : first.merged = other.merged)
    (sameTempFiles : first.tempFiles = other.tempFiles)
    (shown : ∀ batch ∈ done, ∀ content,
      last.tree.look (dirs.batchFile batch.index) = .ok (.file content) →
        other.tree.look (dirs.batchFile batch.index) = .ok (.file content)) :
    ∃ otherLast, Processed (replying later { options with resume := true } dirs .never) total
        done other otherLast ∧
      otherLast.tree = other.tree ∧ last.merged = otherLast.merged ∧
      last.tempFiles = otherLast.tempFiles ∧ otherLast.requests = other.requests ∧
      otherLast.tokens = other.tokens := by
  induction processed with
  | none => exact ⟨other, .none other, rfl, sameMerged, sameTempFiles, rfl, rfl⟩
  | @next done batch _ before after earlier unseen step ih =>
    obtain ⟨reply, candidate, _, _, saved, merged, tempFiles⟩ :=
      saved_of_step (earlier.fresh fresh).savedBatch?_eq_none step
    -- What the earlier batches saved is still there after this one.
    have kept : ∀ other ∈ done, ∀ content,
        before.tree.look (dirs.batchFile other.index) = .ok (.file content) →
          after.tree.look (dirs.batchFile other.index) = .ok (.file content) := by
      intro other member content shownBefore
      have shownAfter := look_batchFile_of_ne saved (fresh.index_ne member) shownBefore
      exact shownAfter
    obtain ⟨otherBefore, otherEarlier, otherTree, mergedBefore, tempFilesBefore, requests,
      tokens⟩ := ih fresh.left sameMerged sameTempFiles fun older member content shownBefore =>
        shown older (List.mem_append_left _ member) content
          (kept older member content shownBefore)
    have shownAfter := look_batchFile_of_saveBatch saved
    have shownBatch := shown batch (by simp) _ shownAfter
    have found : (replying later { options with resume := true } dirs .never).savedBatch?
        otherBefore.tree batch =
          some (reconcileBatch batch.nodes candidate).nodes.withoutSources := by
      refine savedBatch?_of_look rfl (keys_reconcileBatch batch.nodes candidate) ?_
      rw [otherTree]
      exact shownBatch
    have otherStep : BatchStep _ total batch otherBefore _ _ := .resumed found
    refine ⟨_, otherEarlier.next rfl otherStep, otherTree, ?_, ?_, requests, tokens⟩
    · rw [merged, mergedBefore, ← NodeMap.toJsonObject_withoutSources]
      rfl
    · rw [tempFiles, tempFilesBefore]
      rfl

/-- A stopped run has saved its pending nodes and processed some of its batches. -/
theorem processed_of_stopped
    (halted : stopped ((replying replies options dirs cancel).execute tree nodes).2 = true) :
    ∃ prepared done rest last,
      Artifact.saveJson tree dirs.pendingFile nodes.withoutSources.toJson = (prepared, .ok ()) ∧
      (replying replies options dirs cancel).batches nodes = done ++ rest ∧
      Processed (replying replies options dirs cancel)
        ((replying replies options dirs cancel).batches nodes).length done
        ((replying replies options dirs cancel).opening prepared nodes) last ∧
      ((replying replies options dirs cancel).execute tree nodes).1.tree = last.tree := by
  have ends := runEnd_execute (replying replies options dirs cancel) tree nodes
  generalize ((replying replies options dirs cancel).execute tree nodes).1 = after at ends ⊢
  generalize ((replying replies options dirs cancel).execute tree nodes).2 = outcome at ends halted
  cases ends with
  | unprepared unsaved => simp [stopped] at halted
  | failed saved ended =>
    cases ended with
    | @failed done rest batch before _ _ split processed step =>
      refine ⟨_, done, batch :: rest, before, saved, split, processed, ?_⟩
      cases step with
      | serviceFailed absent answered => rfl
      | panicked absent answered uncounted => simp [stopped] at halted
      | replyUnusable absent answered counted unread => rfl
      | notSaved absent answered counted read unsaved => simp [stopped] at halted
  | cancelled saved ended =>
    cases ended with
    | @cancelledBefore done rest batch last split processed seen =>
      exact ⟨_, done, batch :: rest, _, saved, split, processed, rfl⟩
    | @cancelledAfter done rest batch last split processed seen more =>
      exact ⟨_, done ++ [batch], rest, _, saved, by simp [split], processed, rfl⟩
  | @finished _ last _ _ saved processed ended =>
    rcases kept : (replying replies options dirs cancel).saveResult last.tree
      ((replying replies options dirs cancel).validated nodes.withoutSources last)
      with ⟨reached, ⟨⟩ | ⟨⟩⟩
    · rw [finish_of_unsaved kept] at ended
      obtain rfl := (Prod.mk.inj ended).2
      simp [stopped] at halted
    · rw [finish_of_saved kept] at ended
      obtain rfl := (Prod.mk.inj ended).2
      simp [stopped] at halted

theorem fresh_of_saved {prepared : FileTree}
    (nothingSaved : ∀ batch, tree.HasNoFile (dirs.batchFile batch))
    (saved : Artifact.saveJson tree dirs.pendingFile nodes.withoutSources.toJson =
      (prepared, .ok ())) :
    Fresh dirs (Batch.partition options.batchSize nodes.withoutSources) prepared := by
  have savedAs := Artifact.savedAs_of_saveText saved
  exact ⟨Batch.nodup_index_partition _ _, fun batch _ => savedAs.hasNoFile_of_ne
    (OutputDirs.target_pendingFile_ne_batchFile batch.index).symm (nothingSaved batch.index)⟩

theorem completed_of_essence {outcome : Except TranslateError RunOutcome} {result : Reconciled}
    (same : essence outcome = .ok (some result)) :
    ∃ completed, outcome = .ok (.completed completed) := by
  rcases outcome with error | completed | ⟨batches, all⟩
  · simp [essence] at same
  · exact ⟨completed, rfl⟩
  · simp [essence] at same

/-- The run that goes on where another was stopped. -/
def resuming (later : LocalizationRequest → Except String ServiceReply) (options : RunOptions)
    (dirs : OutputDirs) : LocalizationRun :=
  replying later { options with resume := true } dirs .never

/-- Whether an uninterrupted run and a resuming one have come to the same point: the batches so far
are saved and the others are fresh. -/
structure Rejoined (later : LocalizationRequest → Except String ServiceReply)
    (options : RunOptions) (dirs : OutputDirs) (total : Nat) (done rest : List Batch)
    (start resumedStart : RunState) : Prop where
  saved : ∀ batch ∈ done, resumedStart.tree.isFile (dirs.batchFile batch.index) = true
  meet : ∃ state other, Processed (replying later options dirs .never) total done start state ∧
    Processed (resuming later options dirs) total done resumedStart other ∧
    Alike state other ∧ other.requests = resumedStart.requests ∧
    other.tree = resumedStart.tree ∧ Fresh dirs rest state.tree

/-- A resuming run catches up with the uninterrupted run. -/
theorem rejoined_of_stopped
    (nothingSaved : ∀ batch, tree.HasNoFile (dirs.batchFile batch))
    (halted : stopped ((replying replies options dirs cancel).execute tree nodes).2 = true)
    (agree : ∀ batch ∈ Batch.partition options.batchSize nodes.withoutSources,
      ∀ reply object, replies (.ofBatch options.systemPrompt batch) = .ok reply →
        ReplyObject.read reply.text = .ok object →
          later (.ofBatch options.systemPrompt batch) = .ok reply) :
    ∃ prepared reached done rest,
      Artifact.saveJson tree dirs.pendingFile nodes.withoutSources.toJson = (prepared, .ok ()) ∧
      ((replying replies options dirs cancel).execute tree nodes).1.tree = reached ∧
      Artifact.saveJson reached dirs.pendingFile nodes.withoutSources.toJson = (reached, .ok ()) ∧
      Batch.partition options.batchSize nodes.withoutSources = done ++ rest ∧
      Rejoined later options dirs (done ++ rest).length done rest
        ((replying later options dirs .never).opening prepared nodes)
        ((resuming later options dirs).opening reached nodes) := by
  obtain ⟨prepared, done, rest, last, saved, split, processed, reached⟩ :=
    processed_of_stopped halted
  change Batch.partition options.batchSize nodes.withoutSources = done ++ rest at split
  change Processed _ (Batch.partition options.batchSize nodes.withoutSources).length _ _ _
    at processed
  rw [split] at processed
  have fresh : Fresh dirs (done ++ rest) prepared := split ▸ fresh_of_saved nothingSaved saved
  -- Up to the stop, the uninterrupted run is in lockstep with the first.
  obtain ⟨state, wholeProcessed, alike⟩ : ∃ state,
      Processed (replying later options dirs .never) (done ++ rest).length done
        ((replying later options dirs .never).opening prepared nodes) state ∧
      Alike last state :=
    processed.lockstep (Alike.refl _) fresh.left fun batch member =>
      agree batch (by simp [split, member])
  -- The second run finds the pending nodes and all processed batches saved.
  have pendingShown : last.tree.look dirs.pendingFile =
      .ok (.file (Artifact.text nodes.withoutSources.toJson).toUTF8) :=
    processed.look fresh.left dirs.isArtifact_pendingFile.unseparated
      (fun _ _ _ => OutputDirs.target_pendingFile_ne_batchFile _)
      (fun _ _ _ => OutputDirs.target_pendingFile_ne_batchLogFile _)
      (Artifact.savedAs_of_saveText saved).shown
  have secondSaved : Artifact.saveJson last.tree dirs.pendingFile nodes.withoutSources.toJson =
      (last.tree, .ok ()) :=
    Artifact.saveText_of_look dirs.isArtifact_pendingFile pendingShown
  obtain ⟨other, secondProcessed, sameTree, sameMerged, sameTempFiles, noRequests,
      noTokens⟩ : ∃ other,
      Processed (resuming later options dirs) (done ++ rest).length done
        ((resuming later options dirs).opening last.tree nodes) other ∧
      other.tree = last.tree ∧ last.merged = other.merged ∧ last.tempFiles = other.tempFiles ∧
      other.requests = [] ∧ other.tokens = {} :=
    processed.resume fresh.left rfl rfl fun _ _ _ shown => shown
  refine ⟨prepared, last.tree, done, rest, saved, reached, secondSaved, split,
    processed.isFile fresh.left, state, other, wholeProcessed, secondProcessed,
    ⟨?_, ?_, ?_, ?_⟩, noRequests, sameTree, ?_⟩
  · exact alike.tree.symm.trans sameTree.symm
  · exact alike.merged.symm.trans sameMerged
  · exact alike.tempFiles.symm.trans sameTempFiles
  · -- The second run has counted nothing yet.
    rw [noTokens]
    exact ⟨Nat.zero_le _, Nat.zero_le _, Nat.zero_le _⟩
  · exact alike.tree ▸ processed.fresh fresh

/-- From where they meet, both runs go through the fresh batches in lockstep, unless the
uninterrupted one panics. -/
theorem Rejoined.processBatches {done rest : List Batch} {start resumedStart : RunState}
    (rejoined : Rejoined later options dirs total done rest start resumedStart)
    (calm : ∀ index, ((replying later options dirs .never).processBatches total (done ++ rest)
      start).2 ≠ .error (.panicked index)) :
    ∃ last otherLast outcome,
      (replying later options dirs .never).processBatches total (done ++ rest) start =
        (last, outcome) ∧
      (resuming later options dirs).processBatches total (done ++ rest) resumedStart =
        (otherLast, outcome) ∧
      Alike last otherLast ∧
      (outcome = .ok none → otherLast.requests =
        resumedStart.requests ++ rest.map (.ofBatch options.systemPrompt)) := by
  obtain ⟨state, other, processed, resumed, alike, requests, _, fresh⟩ := rejoined.meet
  rw [processed.processBatches_append rfl] at calm
  rw [processed.processBatches_append rfl, resumed.processBatches_append rfl, ← requests]
  exact processBatches_lockstep later options dirs true total alike fresh calm

/-- The batches that are not saved are the fresh ones. -/
theorem Rejoined.filter_unsaved {done rest : List Batch} {start resumedStart : RunState}
    (rejoined : Rejoined later options dirs total done rest start resumedStart) :
    ((done ++ rest).filter fun batch =>
      !resumedStart.tree.isFile (dirs.batchFile batch.index)) = rest := by
  obtain ⟨state, other, _, _, alike, _, sameTree, fresh⟩ := rejoined.meet
  have reached : resumedStart.tree = state.tree := sameTree.symm.trans alike.tree.symm
  rw [List.filter_append, List.filter_eq_nil_iff.2, List.nil_append, List.filter_eq_self]
  · intro batch member
    rw [reached, (fresh.unsaved batch member).isFile_eq_false
      (dirs.isArtifact_batchFile batch.index).unseparated]
    rfl
  · intro batch member
    simp [rejoined.saved batch member]

/-- Whether a run that goes on behind another comes to the end of an uninterrupted one, and requests
exactly the batches that the first did not save. -/
structure Continues (options : RunOptions) (dirs : OutputDirs) (nodes : NodeMap)
    (first second whole : RunState × Except TranslateError RunOutcome) : Prop where
  tree : second.1.tree = whole.1.tree
  outcome : essence second.2 = essence whole.2
  requests : ∀ result, second.2 = .ok (.completed result) →
    second.1.requests =
      ((Batch.partition options.batchSize nodes.withoutSources).filter fun batch =>
        !first.1.tree.isFile (dirs.batchFile batch.index)).map (.ofBatch options.systemPrompt)

/-- Behind a stopped run, a resuming one comes to the end of an uninterrupted run that does not
panic. -/
theorem continues_of_calm {first second whole : RunState × Except TranslateError RunOutcome}
    (firstRun : (replying replies options dirs cancel).execute tree nodes = first)
    (secondRun : (resuming later options dirs).execute first.1.tree nodes = second)
    (wholeRun : (replying later options dirs .never).execute tree nodes = whole)
    (nothingSaved : ∀ batch, tree.HasNoFile (dirs.batchFile batch))
    (halted : stopped first.2 = true)
    (agree : ∀ batch ∈ Batch.partition options.batchSize nodes.withoutSources,
      ∀ reply object, replies (.ofBatch options.systemPrompt batch) = .ok reply →
        ReplyObject.read reply.text = .ok object →
          later (.ofBatch options.systemPrompt batch) = .ok reply)
    (calm : ¬(replying later options dirs .never).Panics tree nodes) :
    Continues options dirs nodes first second whole := by
  subst firstRun
  obtain ⟨prepared, reached, done, rest, saved, firstTree, secondSaved, split, rejoined⟩ :=
    rejoined_of_stopped nothingSaved halted agree
  have wholeBatches : (replying later options dirs .never).batches nodes = done ++ rest := split
  have secondBatches : (resuming later options dirs).batches nodes = done ++ rest := split
  have wholeEnd := execute_of_saved (replying later options dirs .never) saved
  have secondEnd := execute_of_saved (resuming later options dirs) secondSaved
  rw [wholeBatches] at wholeEnd
  rw [secondBatches] at secondEnd
  have calmBatches : ∀ index, ((replying later options dirs .never).processBatches
      (done ++ rest).length (done ++ rest)
      ((replying later options dirs .never).opening prepared nodes)).2 ≠
        .error (.panicked index) := by
    intro index panicked
    apply calm
    refine ⟨index, ?_⟩
    rw [wholeEnd]
    split <;> rename_i went <;> rw [went] at panicked
    · exact congrArg _ (Except.error.inj panicked)
    · simp at panicked
    · simp at panicked
  obtain ⟨last, otherLast, outcome, wholeWent, secondWent, alike, requests⟩ :=
    rejoined.processBatches calmBatches
  rw [firstTree] at secondRun
  rw [wholeWent, wholeRun] at wholeEnd
  rw [secondWent, secondRun] at secondEnd
  have ends : second.1.tree = whole.1.tree ∧ essence second.2 = essence whole.2 := by
    rw [wholeEnd, secondEnd]
    rcases outcome with error | _ | completed
    · exact ⟨alike.tree.symm, rfl⟩
    · have finished := finish_lockstep later options dirs true (done ++ rest).length
        nodes.withoutSources alike
      exact ⟨finished.1.symm, finished.2.symm⟩
    · exact ⟨alike.tree.symm, rfl⟩
  refine ⟨ends.1, ends.2, fun result completed => ?_⟩
  have unsaved : ((done ++ rest).filter fun batch =>
      !reached.isFile (dirs.batchFile batch.index)) = rest := rejoined.filter_unsaved
  rw [firstTree, split, unsaved]
  rcases outcome with error | _ | stoppedAt
  · rw [secondEnd] at completed
    simp at completed
  · rw [secondEnd, requests_finish, requests rfl]
    rfl
  · rw [secondEnd] at completed
    simp at completed

/-- If what the replies of an uninterrupted run tell can be counted, then an interrupted run and a
resuming one leave the files of the uninterrupted run and have its result, and the second requests
exactly what the first did not save. If it cannot be counted, the uninterrupted run has no result:
it panics, and so the runs come to the same completed result only if it can. -/
theorem resumed_eq_uninterrupted_iff
    {first second whole : RunState × Except TranslateError RunOutcome}
    (firstRun : (replying replies options dirs cancel).execute tree nodes = first)
    (secondRun : (resuming later options dirs).execute first.1.tree nodes = second)
    (wholeRun : (replying later options dirs .never).execute tree nodes = whole)
    (nothingSaved : ∀ batch, tree.HasNoFile (dirs.batchFile batch))
    (halted : stopped first.2 = true)
    (agree : ∀ batch ∈ Batch.partition options.batchSize nodes.withoutSources,
      ∀ reply object, replies (.ofBatch options.systemPrompt batch) = .ok reply →
        ReplyObject.read reply.text = .ok object →
          later (.ofBatch options.systemPrompt batch) = .ok reply)
    (answers : ∀ batch ∈ Batch.partition options.batchSize nodes.withoutSources,
      ∃ reply object, later (.ofBatch options.systemPrompt batch) = .ok reply ∧
        ReplyObject.read reply.text = .ok object) :
    ((replying later options dirs .never).CountsFit tree nodes →
      Continues options dirs nodes first second whole) ∧
    (CanSave (replying later options dirs .never) nodes tree →
      ((replying later options dirs .never).CountsFit tree nodes ↔
        Continues options dirs nodes first second whole ∧
          (∃ result, second.2 = .ok (.completed result)) ∧
            ∃ result, whole.2 = .ok (.completed result))) := by
  rw [countsFit_iff]
  have continues := continues_of_calm firstRun secondRun wholeRun nothingSaved halted agree
  refine ⟨continues, ?_⟩
  intro possible
  constructor
  · intro calm
    rcases completes possible (fun _ _ _ writable => writable)
      (fun batch member _ => answers batch member) calm rfl with ⟨result, completed⟩
    rw [wholeRun] at completed
    have same := (continues calm).outcome
    rw [completed] at same
    exact ⟨continues calm, completed_of_essence same, result, completed⟩
  · rintro ⟨-, -, result, completed⟩ ⟨index, panicked⟩
    rw [wholeRun, completed] at panicked
    simp at panicked

/-- The files before the sample runs: the directories are new. -/
def newTree : FileTree := (OutputDirs.create .empty (sampleDirs "pack")).1

/-- A service that answers every batch. -/
def steadyReplies (_ : LocalizationRequest) : Except String ServiceReply :=
  .ok { text := Json.compact (.object [("Blur", .null)]) }

/-- A service that is down after the first batch. -/
def failingReplies (request : LocalizationRequest) : Except String ServiceReply :=
  if request.batch = 1 then steadyReplies request else .error "down"

/-- A run that fails at its second batch. -/
def failedRun : RunState × Except TranslateError RunOutcome :=
  (replying failingReplies sampleOptions (sampleDirs "pack") .never).execute newTree sampleNodes

/-- The run that goes on behind it. -/
def resumedRun : RunState × Except TranslateError RunOutcome :=
  (resuming steadyReplies sampleOptions (sampleDirs "pack")).execute failedRun.1.tree sampleNodes

/-- The run that never fails. -/
def steadyRun : RunState × Except TranslateError RunOutcome :=
  (replying steadyReplies sampleOptions (sampleDirs "pack") .never).execute newTree sampleNodes

set_option maxRecDepth 100000 in
/-- The resumed run completes with the files and the result of the run that never fails. -/
theorem resumed_eq_uninterrupted_of_failure :
    resumedRun.1.tree = steadyRun.1.tree ∧ essence resumedRun.2 = essence steadyRun.2 ∧
      ∃ result, resumedRun.2 = .ok (.completed result) := by
  have read : ReplyObject.read (Json.compact (.object [("Blur", .null)])) =
      .ok (.ofList [("Blur", .null)]) := by decide +kernel
  have halted : stopped failedRun.2 = true := by decide +kernel
  have possible : CanSave (replying steadyReplies sampleOptions (sampleDirs "pack") .never)
      sampleNodes newTree := ⟨⟨_, _, rfl⟩, by decide +kernel⟩
  have nothingSaved : ∀ batch, newTree.HasNoFile ((sampleDirs "pack").batchFile batch) :=
    (sampleDirs "pack").hasNoFile_create (by decide +kernel)
  have agree : ∀ batch : Batch, ∀ reply object,
      failingReplies (.ofBatch sampleOptions.systemPrompt batch) = .ok reply →
        ReplyObject.read reply.text = .ok object →
          steadyReplies (.ofBatch sampleOptions.systemPrompt batch) = .ok reply := by
    intro batch reply object replied _
    rw [failingReplies] at replied
    split at replied
    · exact replied
    · simp at replied
  have fit : (replying steadyReplies sampleOptions (sampleDirs "pack") .never).CountsFit newTree
      sampleNodes := by
    apply countsFit_of_untold
    rintro batch - tree reply ⟨⟩
    rfl
  obtain ⟨continues, ended, -⟩ :=
    ((resumed_eq_uninterrupted_iff (rfl : _ = failedRun) (rfl : _ = resumedRun)
      (rfl : _ = steadyRun) nothingSaved halted (fun batch _ => agree batch)
        fun _ _ => ⟨_, _, rfl, read⟩).2 possible).1 fit
  exact ⟨continues.tree, continues.outcome, ended⟩

/-- A service that tells as many prompt tokens as can be counted for the first batch, and one more
for the second. -/
def countingReplies (request : LocalizationRequest) : Except String ServiceReply :=
  let prompt := if request.batch = 1 then 18446744073709551615 else 1
  .ok { text := "\x7b\x7d", usage := some ⟨prompt, 0, 0⟩ }

/-- The same service, which is down after the first batch. -/
def countingFailing (request : LocalizationRequest) : Except String ServiceReply :=
  if request.batch = 1 then countingReplies request else .error "down"

set_option maxRecDepth 100000 in
/-- Behind a run that fails at its second batch, a resuming run completes, where the uninterrupted
run panics. -/
theorem uninterrupted_panics_of_countingReplies :
    ∃ first, (replying countingFailing sampleOptions (sampleDirs "pack") .never).execute newTree
        sampleNodes = first ∧ stopped first.2 = true ∧
      (∃ result, ((resuming countingReplies sampleOptions (sampleDirs "pack")).execute
        first.1.tree sampleNodes).2 = .ok (.completed result)) ∧
      ((replying countingReplies sampleOptions (sampleDirs "pack") .never).execute newTree
        sampleNodes).2 = .error (.panicked 2) := by
  refine ⟨_, rfl, by decide +kernel, ?_, failure?_eq_some_iff.1 (by decide +kernel)⟩
  have completes : (completedRun? ((resuming countingReplies sampleOptions
      (sampleDirs "pack")).execute ((replying countingFailing sampleOptions (sampleDirs "pack")
        .never).execute newTree sampleNodes).1.tree sampleNodes).2).isSome = true := by
    decide +kernel
  obtain ⟨result, found⟩ := Option.isSome_iff_exists.1 completes
  exact ⟨result, completedRun?_eq_some_iff.1 found⟩

end LocalizationRun

end NodeLocale
