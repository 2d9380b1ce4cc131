import NodeLocale.Proofs.Localization.SavedBatches
import NodeLocale.Proofs.Localization.TokenTotals

/-!
# Runs in lockstep

Two runs with the same work but different replies or cancel signals, one of them perhaps resuming,
go in lockstep through a batch that neither finds saved and for which both get the same reply. They
stay alike: they see the same files, have merged the same nodes, and are to remove the same
files in the end. So they finish alike as well. A run that resumes has counted fewer tokens, so it
goes on where the other one does, but where the other one panics it may go on alone.
-/

namespace NodeLocale

namespace LocalizationRun

/-- Whether two states agree on all that shows in the files in the end, where the second has not
counted more tokens. -/
structure Alike (left right : RunState) : Prop where
  tree : left.tree = right.tree
  merged : left.merged = right.merged
  tempFiles : left.tempFiles = right.tempFiles
  counted : right.tokens.AtMost left.tokens

theorem Alike.refl (state : RunState) : Alike state state :=
  ⟨rfl, rfl, rfl, Nat.le_refl _, Nat.le_refl _, Nat.le_refl _⟩

/-- A run whose replies are fixed. -/
def replying (replies : LocalizationRequest → Except String ServiceReply) (options : RunOptions)
    (dirs : OutputDirs) (cancel : CancelSignal) : LocalizationRun where
  service := .ofReplies replies
  options := options
  dirs := dirs
  cancel := cancel

variable {replies later : LocalizationRequest → Except String ServiceReply}
  {options : RunOptions} {dirs : OutputDirs} {cancel signal : CancelSignal} {resume : Bool}
  {total : Nat} {batch : Batch}

/-- What a reply tells is counted on top of smaller counts, too. -/
theorem exists_recordTold? {counts less next : TokenUsage} (smaller : less.AtMost counts)
    {usage : Option TokenUsage} (counted : counts.recordTold? usage = some next) :
    ∃ nextLess, less.recordTold? usage = some nextLess ∧ nextLess.AtMost next := by
  cases usage with
  | none =>
    obtain rfl := Option.some.inj counted
    exact ⟨less, rfl, smaller⟩
  | some usage => exact smaller.record? counted

/-- A batch that is requested in both runs with the same reply ends in both in the same way, unless
the first run panics. -/
theorem BatchStep.lockstep {before after other : RunState} {result : Except TranslateError Unit}
    (alike : Alike before other)
    (absent : (replying replies options dirs cancel).savedBatch? before.tree batch = none)
    (otherAbsent : (replying later { options with resume } dirs signal).savedBatch?
      other.tree batch = none)
    (sameReply : replies (.ofBatch options.systemPrompt batch) =
      later (.ofBatch options.systemPrompt batch))
    (step : BatchStep (replying replies options dirs cancel) total batch before after result)
    (calm : ∀ index, result ≠ .error (.panicked index)) :
    ∃ otherAfter, BatchStep (replying later { options with resume } dirs signal) total batch other
        otherAfter result ∧ Alike after otherAfter ∧
      otherAfter.requests = other.requests ++ [.ofBatch options.systemPrompt batch] := by
  obtain ⟨sameTree, sameMerged, sameTempFiles, smaller⟩ := alike
  cases step with
  | resumed found => simp [absent] at found
  | serviceFailed _ answered =>
    have otherAnswered : later (.ofBatch options.systemPrompt batch) = .error _ :=
      sameReply.symm.trans answered
    exact ⟨_, .serviceFailed otherAbsent otherAnswered,
      ⟨sameTree, sameMerged, sameTempFiles, smaller⟩, rfl⟩
  | panicked => exact absurd rfl (calm _)
  | replyUnusable _ answered counted unread =>
    have otherAnswered : later (.ofBatch options.systemPrompt batch) = .ok _ :=
      sameReply.symm.trans answered
    obtain ⟨less, otherCounted, stillSmaller⟩ := exists_recordTold? smaller counted
    exact ⟨_, .replyUnusable otherAbsent otherAnswered otherCounted unread,
      ⟨sameTree, sameMerged, sameTempFiles, stillSmaller⟩, rfl⟩
  | notSaved _ answered counted read unsaved =>
    have otherAnswered : later (.ofBatch options.systemPrompt batch) = .ok _ :=
      sameReply.symm.trans answered
    obtain ⟨less, otherCounted, stillSmaller⟩ := exists_recordTold? smaller counted
    change (replying later { options with resume } dirs signal).saveBatch before.tree batch _ = _
      at unsaved
    rw [sameTree] at unsaved
    exact ⟨_, .notSaved otherAbsent otherAnswered otherCounted read unsaved,
      ⟨rfl, sameMerged, sameTempFiles, stillSmaller⟩, rfl⟩
  | translated _ answered counted read saved =>
    have otherAnswered : later (.ofBatch options.systemPrompt batch) = .ok _ :=
      sameReply.symm.trans answered
    obtain ⟨less, otherCounted, stillSmaller⟩ := exists_recordTold? smaller counted
    change (replying later { options with resume } dirs signal).saveBatch before.tree batch _ = _
      at saved
    rw [sameTree] at saved
    refine ⟨_, .translated otherAbsent otherAnswered otherCounted read saved,
      ⟨rfl, ?_, ?_, stillSmaller⟩, rfl⟩
    · exact congrArg (OrderedMap.insertMany · _) sameMerged
    · exact congrArg (registerTemp · _) sameTempFiles

/-! ### What a requested batch leaves behind -/

/-- A batch that was requested and processed is saved and merged. -/
theorem saved_of_step {before after : RunState}
    (absent : (replying replies options dirs cancel).savedBatch? before.tree batch = none)
    (step : BatchStep (replying replies options dirs cancel) total batch before after (.ok ())) :
    ∃ reply candidate, replies (.ofBatch options.systemPrompt batch) = .ok reply ∧
      ReplyObject.read reply.text = .ok candidate ∧
      (replying replies options dirs cancel).saveBatch before.tree batch
        (reconcileBatch batch.nodes candidate) = (after.tree, .ok ()) ∧
      after.merged = before.merged.insertMany
        (reconcileBatch batch.nodes candidate).nodes.toJsonObject.entries ∧
      after.tempFiles = registerTemp before.tempFiles (dirs.batchFile batch.index) := by
  cases step with
  | resumed found => simp [absent] at found
  | translated _ answered counted read saved => exact ⟨_, _, answered, read, saved, rfl, rfl⟩

/-- Whether batches are different and none of them is saved. -/
structure Fresh (dirs : OutputDirs) (batches : List Batch) (tree : FileTree) : Prop where
  distinct : (batches.map Batch.index).Nodup
  unsaved : ∀ batch ∈ batches, tree.HasNoFile (dirs.batchFile batch.index)

theorem Fresh.left {done rest : List Batch} {tree : FileTree}
    (fresh : Fresh dirs (done ++ rest) tree) : Fresh dirs done tree := by
  refine ⟨fresh.distinct.sublist ?_, fun batch member =>
    fresh.unsaved batch (List.mem_append_left rest member)⟩
  rw [List.map_append]
  exact List.sublist_append_left _ _

theorem Fresh.index_ne {done : List Batch} {other : Batch} {tree : FileTree}
    (fresh : Fresh dirs (done ++ [batch]) tree) (member : other ∈ done) :
    other.index ≠ batch.index := by
  have distinct := fresh.distinct
  rw [List.map_append, List.nodup_append] at distinct
  exact distinct.2.2 other.index (List.mem_map_of_mem member) batch.index (by simp)

/-- The first of fresh batches is not resumed. -/
theorem Fresh.savedBatch?_eq_none {run : LocalizationRun} {rest : List Batch} {tree : FileTree}
    (fresh : Fresh run.dirs (batch :: rest) tree) : run.savedBatch? tree batch = none :=
  LocalizationRun.savedBatch?_eq_none (fresh.unsaved batch List.mem_cons_self)

/-- Other batches stay fresh when a batch is saved. -/
theorem Fresh.saveBatch {run : LocalizationRun} {rest : List Batch} {before after : FileTree}
    {reconciled : Reconciled} (fresh : Fresh run.dirs (batch :: rest) before)
    (saved : run.saveBatch before batch reconciled = (after, .ok ())) :
    Fresh run.dirs rest after := by
  have distinct := List.nodup_cons.1 fresh.distinct
  refine ⟨distinct.2, fun other member => hasNoFile_of_saveBatch saved ?_
    (fresh.unsaved other (List.mem_cons_of_mem _ member))⟩
  intro same
  exact distinct.1 (same ▸ List.mem_map_of_mem member)

/-- Batches that are still to come stay fresh. -/
theorem Processed.fresh {done rest : List Batch} {first last : RunState}
    (processed : Processed (replying replies options dirs cancel) total done first last)
    (fresh : Fresh dirs (done ++ rest) first.tree) : Fresh dirs rest last.tree := by
  induction processed generalizing rest with
  | none => exact fresh
  | @next done batch _ before after earlier unseen step ih =>
    rw [List.append_assoc, List.singleton_append] at fresh
    have freshBefore := ih fresh
    obtain ⟨_, _, _, _, saved, _, _⟩ :=
      saved_of_step freshBefore.savedBatch?_eq_none step
    exact freshBefore.saveBatch saved

/-- Processing fresh batches leaves a file alone that is neither of their nodes nor of their
logs. -/
theorem Processed.look {done : List Batch} {first last : RunState} {path : Path}
    {content : ByteArray}
    (processed : Processed (replying replies options dirs cancel) total done first last)
    (fresh : Fresh dirs done first.tree) (unseparated : path.endsWithSeparator = false)
    (notNodes : ∀ batch ∈ done, ∀ start,
      path.target start ≠ (dirs.batchFile batch.index).target start)
    (notLog : ∀ batch ∈ done, ∀ start,
      path.target start ≠ (dirs.batchLogFile batch.index).target start)
    (shown : first.tree.look path = .ok (.file content)) :
    last.tree.look path = .ok (.file content) := by
  induction processed with
  | none => exact shown
  | @next done batch _ before after earlier unseen step ih =>
    have shownBefore := ih fresh.left
      (fun other member => notNodes other (List.mem_append_left _ member))
      (fun other member => notLog other (List.mem_append_left _ member)) shown
    obtain ⟨_, _, _, _, saved, _, _⟩ :=
      saved_of_step (earlier.fresh fresh).savedBatch?_eq_none step
    exact look_of_saveBatch saved unseparated (notNodes batch (by simp)) (notLog batch (by simp))
      shownBefore

/-- Fresh batches that were processed are saved. -/
theorem Processed.isFile {done : List Batch} {first last : RunState}
    (processed : Processed (replying replies options dirs cancel) total done first last)
    (fresh : Fresh dirs done first.tree) :
    ∀ batch ∈ done, last.tree.isFile (dirs.batchFile batch.index) = true := by
  induction processed with
  | none => simp
  | @next done batch _ before after earlier unseen step ih =>
    obtain ⟨_, _, _, _, saved, _, _⟩ :=
      saved_of_step (earlier.fresh fresh).savedBatch?_eq_none step
    intro other member
    rw [FileTree.isFile_iff]
    rcases List.mem_append.1 member with older | newest
    · obtain ⟨content, shown⟩ := FileTree.isFile_iff.1 (ih fresh.left other older)
      have stillShown := look_batchFile_of_ne saved (fresh.index_ne older) shown
      exact ⟨content, stillShown⟩
    · obtain rfl := List.mem_singleton.1 newest
      have shownAfter := look_batchFile_of_saveBatch saved
      exact ⟨_, shownAfter⟩

/-! ### Going on in lockstep -/

/-- Fresh batches that a run processed are processed in the same way by a run that gets the same
replies. -/
theorem Processed.lockstep {done : List Batch} {first last other : RunState}
    (processed : Processed (replying replies options dirs cancel) total done first last)
    (alike : Alike first other) (fresh : Fresh dirs done first.tree)
    (agree : ∀ batch ∈ done, ∀ reply object,
      replies (.ofBatch options.systemPrompt batch) = .ok reply →
      ReplyObject.read reply.text = .ok object →
      later (.ofBatch options.systemPrompt batch) = .ok reply) :
    ∃ otherLast, Processed (replying later { options with resume } dirs .never) total done
      other otherLast ∧ Alike last otherLast := by
  induction processed with
  | none => exact ⟨other, .none other, alike⟩
  | @next done batch _ before after earlier unseen step ih =>
    obtain ⟨otherBefore, otherEarlier, alikeBefore⟩ := ih alike fresh.left
      fun batch member => agree batch (List.mem_append_left _ member)
    have freshBefore := earlier.fresh fresh
    obtain ⟨reply, candidate, replied, read, _⟩ :=
      saved_of_step freshBefore.savedBatch?_eq_none step
    have sameReply : replies (.ofBatch options.systemPrompt batch) =
        later (.ofBatch options.systemPrompt batch) :=
      replied.trans (agree batch (by simp) reply candidate replied read).symm
    obtain ⟨otherAfter, otherStep, alikeAfter, _⟩ := step.lockstep alikeBefore
      freshBefore.savedBatch?_eq_none
      (Fresh.savedBatch?_eq_none (alikeBefore.tree ▸ freshBefore)) sameReply (by simp)
    exact ⟨otherAfter, otherEarlier.next rfl otherStep, alikeAfter⟩

/-- Two runs with the same replies go through fresh batches alike unless the first panics, and if
all are processed, the second run has requested each of them. -/
theorem processBatches_lockstep (later : LocalizationRequest → Except String ServiceReply)
    (options : RunOptions) (dirs : OutputDirs) (resume : Bool) (total : Nat) {batches : List Batch}
    {state other : RunState} (alike : Alike state other) (fresh : Fresh dirs batches state.tree)
    (calm : ∀ index, ((replying later options dirs .never).processBatches total batches state).2 ≠
      .error (.panicked index)) :
    ∃ last otherLast outcome,
      (replying later options dirs .never).processBatches total batches state = (last, outcome) ∧
      (replying later { options with resume } dirs .never).processBatches total batches other =
        (otherLast, outcome) ∧
      Alike last otherLast ∧
      (outcome = .ok none → otherLast.requests = other.requests ++
        batches.map (.ofBatch options.systemPrompt)) := by
  induction batches generalizing state other with
  | nil => exact ⟨state, other, .ok none, rfl, rfl, alike, by simp⟩
  | cons batch rest ih =>
    have otherAbsent : (replying later { options with resume } dirs .never).savedBatch?
        other.tree batch = none := Fresh.savedBatch?_eq_none (alike.tree ▸ fresh)
    have step := batchStep_processBatch (replying later options dirs .never) total batch state
    rcases ended : (replying later options dirs .never).processBatch total batch state
      with ⟨after, result⟩
    rw [ended] at step
    rw [processBatches_cons rfl, ended] at calm
    have calmHere : ∀ index, result ≠ .error (.panicked index) := by
      rintro index rfl
      exact calm index rfl
    obtain ⟨otherAfter, otherStep, alikeAfter, requests⟩ :=
      step.lockstep alike fresh.savedBatch?_eq_none otherAbsent rfl calmHere
    rw [processBatches_cons rfl, processBatches_cons rfl, ended, batchStep_iff.1 otherStep]
    cases result with
    | error error => exact ⟨after, otherAfter, .error error, rfl, rfl, alikeAfter, by simp⟩
    | ok =>
      obtain ⟨_, _, _, _, saved, _, _⟩ := saved_of_step fresh.savedBatch?_eq_none step
      obtain ⟨last, otherLast, outcome, lastEnd, otherEnd, alikeLast, allRequested⟩ :=
        ih alikeAfter (fresh.saveBatch saved) calm
      refine ⟨last, otherLast, outcome, lastEnd, otherEnd, alikeLast, fun all => ?_⟩
      rw [allRequested all, requests]
      simp

/-! ### Finishing alike -/

/-- What of an outcome does not depend on how a run came to it. -/
def essence (outcome : Except TranslateError RunOutcome) :
    Except TranslateError (Option Reconciled) :=
  match outcome with
  | .error error => .error error
  | .ok (.completed result) => .ok (some ⟨result.nodes, result.finalLog⟩)
  | .ok (.cancelled _ _) => .ok none

theorem finish_lockstep (later : LocalizationRequest → Except String ServiceReply)
    (options : RunOptions) (dirs : OutputDirs) (resume : Bool) (total : Nat) (pending : NodeMap)
    {state other : RunState} (alike : Alike state other) :
    ((replying later options dirs .never).finish pending total state).1.tree =
        ((replying later { options with resume } dirs .never).finish pending total other).1.tree ∧
      essence ((replying later options dirs .never).finish pending total state).2 =
        essence ((replying later { options with resume } dirs .never).finish pending total
          other).2 := by
  obtain ⟨sameTree, sameMerged, sameTempFiles, -⟩ := alike
  have sameResult : (replying later { options with resume } dirs .never).validated pending other =
      (replying later options dirs .never).validated pending state := by
    rw [validated, validated, sameMerged]
    rfl
  have sameSaving : (replying later { options with resume } dirs .never).saveResult other.tree
        ((replying later { options with resume } dirs .never).validated pending other) =
      (replying later options dirs .never).saveResult state.tree
        ((replying later options dirs .never).validated pending state) := by
    rw [sameResult, ← sameTree]
    rfl
  rcases kept : (replying later options dirs .never).saveResult state.tree
    ((replying later options dirs .never).validated pending state) with ⟨tree, ⟨⟩ | ⟨⟩⟩
  · rw [finish_of_unsaved kept, finish_of_unsaved (sameSaving.trans kept)]
    exact ⟨rfl, rfl⟩
  · rw [finish_of_saved kept, finish_of_saved (sameSaving.trans kept)]
    constructor
    · rw [tree_afterResult, tree_afterResult, sameTempFiles]
      rfl
    · simp only [essence, completion, sameResult]

end LocalizationRun

end NodeLocale
