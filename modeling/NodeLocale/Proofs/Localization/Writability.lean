import NodeLocale.Proofs.Files.OutputPlaces
import NodeLocale.Proofs.Localization.Endings

/-!
# Runs that can save their artifacts

A run never fails to save an artifact if all of them can be written when it starts and the service
does not get in the way: writing one artifact leaves the others writable.
-/

namespace NodeLocale

/-- Whether a run failed because an artifact could not be saved. -/
def TranslateError.ofSaving : TranslateError → Bool
  | prepare _ => true
  | service _ _ => false
  | panicked _ => false
  | shape _ _ => false
  | persist _ _ => true
  | finalize _ => true

namespace LocalizationRun

variable (run : LocalizationRun) (nodes : NodeMap)

/-- The files that a run may write. -/
def artifacts : List Path :=
  [run.dirs.pendingFile, run.dirs.finalFile, run.dirs.finalLogFile] ++
    (run.batches nodes).flatMap fun batch =>
      [run.dirs.batchFile batch.index, run.dirs.batchLogFile batch.index]

/-- Whether the directories are those of a plugin and every artifact can be written. -/
structure CanSave (tree : FileTree) : Prop where
  named : ∃ output plugin, run.dirs = .ofPlugin output plugin
  writable : ∀ path ∈ run.artifacts nodes, tree.canWrite path = true

variable {run nodes} {tree : FileTree}

namespace CanSave

theorem isArtifact (possible : CanSave run nodes tree) {path : Path}
    (member : path ∈ run.artifacts nodes) : path.IsArtifact := by
  obtain ⟨output, plugin, named⟩ := possible.named
  simp only [artifacts, List.mem_append, List.mem_cons, List.not_mem_nil, or_false,
    List.mem_flatMap] at member
  rcases member with (rfl | rfl | rfl) | ⟨batch, _, rfl | rfl⟩
  · exact run.dirs.isArtifact_pendingFile
  · rw [named]
    exact OutputDirs.isArtifact_finalFile output plugin
  · exact run.dirs.isArtifact_finalLogFile
  · exact run.dirs.isArtifact_batchFile batch.index
  · exact run.dirs.isArtifact_batchLogFile batch.index

/-- An artifact can be saved, and then all of them can be saved still. -/
theorem saveText (possible : CanSave run nodes tree) {path : Path}
    (member : path ∈ run.artifacts nodes) (text : String) :
    ∃ after, Artifact.saveText tree path text = (after, .ok ()) ∧ CanSave run nodes after := by
  refine ⟨_, Artifact.saveText_of_canWrite (possible.isArtifact member)
    (possible.writable path member) text, possible.named, fun other otherMember => ?_⟩
  exact FileTree.canWrite_put_file _ _ (possible.writable other otherMember)

/-- Nodes and a log can be saved. -/
theorem save (possible : CanSave run nodes tree) {nodesFile logFile : Path}
    (nodesMember : nodesFile ∈ run.artifacts nodes) (logMember : logFile ∈ run.artifacts nodes)
    (reconciled : Reconciled) :
    ∃ after, reconciled.save tree nodesFile logFile = (after, .ok ()) ∧
      CanSave run nodes after := by
  obtain ⟨between, saved, stillPossible⟩ := possible.saveText nodesMember
    (Artifact.text reconciled.nodes.toJson)
  obtain ⟨after, logged, possibleAfter⟩ := stillPossible.saveText logMember
    (Artifact.linesText reconciled.log.lines)
  exact ⟨after, Reconciled.save_eq_ok_iff.2 ⟨between, saved, logged⟩, possibleAfter⟩

theorem saveBatch (possible : CanSave run nodes tree) {batch : Batch}
    (member : batch ∈ run.batches nodes) (reconciled : Reconciled) :
    ∃ after, run.saveBatch tree batch reconciled = (after, .ok ()) ∧
      CanSave run nodes after := by
  have within : ∀ path ∈ [run.dirs.batchFile batch.index, run.dirs.batchLogFile batch.index],
      path ∈ run.artifacts nodes := fun path listed =>
    List.mem_append_right _ (List.mem_flatMap.2 ⟨batch, member, listed⟩)
  exact possible.save (within _ (by simp)) (within _ (by simp)) reconciled

theorem saveResult (possible : CanSave run nodes tree) (result : Reconciled) :
    ∃ after, run.saveResult tree result = (after, .ok ()) ∧ CanSave run nodes after :=
  possible.save (by simp [artifacts]) (by simp [artifacts]) result

end CanSave

/-! ### Whole runs -/

/-- Whether the service leaves every file writable that was. -/
def KeepsWritable (run : LocalizationRun) : Prop :=
  ∀ tree request path, FileTree.canWrite tree path = true →
    (run.service tree request).1.canWrite path = true

variable {total : Nat} {before after : RunState}

namespace CanSave

theorem afterService (possible : CanSave run nodes tree) (keeps : run.KeepsWritable)
    (request : LocalizationRequest) : CanSave run nodes (run.service tree request).1 :=
  ⟨possible.named, fun path member =>
    keeps tree request path (possible.writable path member)⟩

/-- A batch that can be saved is saved. -/
theorem step (possible : CanSave run nodes before.tree) (keeps : run.KeepsWritable)
    {batch : Batch} (member : batch ∈ run.batches nodes) {result : Except TranslateError Unit}
    (step : BatchStep run total batch before after result) :
    CanSave run nodes after.tree ∧
      ∀ error, result = .error error → error.ofSaving = false := by
  have asked := possible.afterService keeps (run.request batch)
  cases step with
  | resumed found => exact ⟨possible, by simp⟩
  | serviceFailed absent answered => exact ⟨asked, by simp [TranslateError.ofSaving]⟩
  | panicked absent answered uncounted => exact ⟨asked, by simp [TranslateError.ofSaving]⟩
  | replyUnusable absent answered counted unread =>
    exact ⟨asked, by simp [TranslateError.ofSaving]⟩
  | notSaved absent answered counted read unsaved =>
    obtain ⟨_, saved, _⟩ := asked.saveBatch member (reconcileBatch batch.nodes _)
    have contradictory := unsaved.symm.trans saved
    simp at contradictory
  | translated absent answered counted read saved =>
    obtain ⟨reached, savedThere, possibleThere⟩ :=
      asked.saveBatch member (reconcileBatch batch.nodes _)
    obtain rfl := (Prod.mk.inj (saved.symm.trans savedThere)).1
    exact ⟨possibleThere, by simp⟩

theorem processed {done : List Batch} {first : RunState} (keeps : run.KeepsWritable)
    (possible : CanSave run nodes first.tree) (members : ∀ batch ∈ done, batch ∈ run.batches nodes)
    (processed : Processed run total done first after) : CanSave run nodes after.tree := by
  induction processed with
  | none => exact possible
  | next earlier unseen step ih =>
    have reached := ih possible fun batch member => members batch (by simp [member])
    exact (reached.step keeps (members _ (by simp)) step).1

end CanSave

/-- A run that can save its artifacts does not fail by saving them. -/
theorem ofSaving_eq_false_of_canSave (possible : CanSave run nodes tree)
    (keeps : run.KeepsWritable) {error : TranslateError}
    (failed : (run.execute tree nodes).2 = .error error) : error.ofSaving = false := by
  obtain ⟨between, savedPending, possibleBetween⟩ := possible.saveText
    (by simp [artifacts] : run.dirs.pendingFile ∈ run.artifacts nodes)
    (Artifact.text nodes.withoutSources.toJson)
  have ends := runEnd_execute run tree nodes
  rw [failed] at ends
  generalize (run.execute tree nodes).1 = after at ends
  cases ends with
  | unprepared unsaved =>
    have contradictory := unsaved.symm.trans savedPending
    simp at contradictory
  | failed saved ended =>
    obtain rfl := (Prod.mk.inj (saved.symm.trans savedPending)).1
    cases ended with
    | failed split processed step =>
      have members : ∀ batch ∈ _, batch ∈ run.batches nodes := fun batch member => by
        rw [split]
        exact List.mem_append_left _ member
      have reached := CanSave.processed keeps possibleBetween members processed
      exact (reached.step keeps (by simp [split]) step).2 error rfl
  | finished saved processed ended =>
    obtain rfl := (Prod.mk.inj (saved.symm.trans savedPending)).1
    have reached := CanSave.processed keeps possibleBetween (fun _ member => member) processed
    obtain ⟨_, kept, _⟩ := reached.saveResult (run.validated nodes.withoutSources _)
    rw [finish_of_saved kept] at ended
    simp at ended

/-- Whether the service answers a batch by a reply that holds an object. -/
def Answers (run : LocalizationRun) (batch : Batch) : Prop :=
  ∀ tree, ∃ reply object, (run.service tree (run.request batch)).2 = .ok reply ∧
    ReplyObject.read reply.text = .ok object

theorem ofSaving_of_step {batch : Batch} (answers : run.Answers batch) {error : TranslateError}
    (step : BatchStep run total batch before after (.error error)) :
    error.ofSaving = true ∨ error = .panicked batch.index := by
  obtain ⟨reply, object, given, readGiven⟩ := answers before.tree
  cases step with
  | serviceFailed absent answered =>
    have contradictory := answered.symm.trans given
    simp at contradictory
  | panicked absent answered uncounted => exact .inr rfl
  | replyUnusable absent answered counted unread =>
    obtain rfl := Except.ok.inj (answered.symm.trans given)
    have contradictory := unread.symm.trans readGiven
    simp at contradictory
  | notSaved absent answered counted read unsaved => exact .inl rfl

theorem ofSaving_of_finish {pending : NodeMap} {error : TranslateError}
    (ended : run.finish pending total before = (after, .error error)) :
    error.ofSaving = true := by
  obtain ⟨reason, rfl⟩ := finish_eq_error ended
  rfl

/-- A run whose batches are all answered and that does not panic fails only by saving an
artifact. -/
theorem ofSaving_of_answers (answers : ∀ batch ∈ run.batches nodes, run.Answers batch)
    (calm : ¬run.Panics tree nodes) {error : TranslateError}
    (failed : (run.execute tree nodes).2 = .error error) : error.ofSaving = true := by
  have ends := runEnd_execute run tree nodes
  rw [failed] at ends
  generalize (run.execute tree nodes).1 = after at ends
  cases ends with
  | unprepared unsaved => rfl
  | failed saved ended =>
    cases ended with
    | failed split processed step =>
      rcases ofSaving_of_step (answers _ (by simp [split])) step with saving | rfl
      · exact saving
      · exact absurd ⟨_, failed⟩ calm
  | finished saved processed ended => exact ofSaving_of_finish ended

/-- A run that nobody cancels is not cancelled. -/
theorem not_cancelled_of_never (untouched : run.cancel = .never) (completed batches : Nat) :
    (run.execute tree nodes).2 ≠ .ok (.cancelled completed batches) := by
  intro cancelled
  have ends := runEnd_execute run tree nodes
  rw [cancelled] at ends
  generalize (run.execute tree nodes).1 = after at ends
  cases ends with
  | cancelled saved ended =>
    cases ended with
    | cancelledBefore split processed seen => simp [untouched, CancelSignal.never] at seen
    | cancelledAfter split processed seen more => simp [untouched, CancelSignal.never] at seen
  | @finished _ last _ _ saved processed ended =>
    obtain ⟨_, _, _, outcome⟩ := saved_of_finish_eq_ok ended
    simp at outcome

/-- A run whose batches are all answered and that does not panic and is not cancelled completes,
unless an artifact cannot be saved. -/
theorem completed_or_unsaved (answers : ∀ batch ∈ run.batches nodes, run.Answers batch)
    (calm : ¬run.Panics tree nodes) (notCancelled : ∀ completed total,
      (run.execute tree nodes).2 ≠ .ok (.cancelled completed total)) :
    (∃ result, (run.execute tree nodes).2 = .ok (.completed result)) ∨
    ∃ error, (run.execute tree nodes).2 = .error error ∧ error.ofSaving = true ∧
      ¬ (CanSave run nodes tree ∧ run.KeepsWritable) := by
  cases outcome : (run.execute tree nodes).2 with
  | error error =>
    have saving := ofSaving_of_answers answers calm outcome
    refine Or.inr ⟨error, rfl, saving, fun possible => ?_⟩
    rw [ofSaving_eq_false_of_canSave possible.1 possible.2 outcome] at saving
    exact Bool.false_ne_true saving
  | ok ended =>
    cases ended with
    | completed result => exact Or.inl ⟨result, rfl⟩
    | cancelled completed batches => exact absurd outcome (notCancelled completed batches)

/-- A run that can save its artifacts, whose batches are all answered, that does not panic and that
nobody cancels completes. -/
theorem completes (possible : CanSave run nodes tree) (keeps : run.KeepsWritable)
    (answers : ∀ batch ∈ run.batches nodes, run.Answers batch) (calm : ¬run.Panics tree nodes)
    (untouched : run.cancel = .never) :
    ∃ result, (run.execute tree nodes).2 = .ok (.completed result) := by
  rcases completed_or_unsaved answers calm (not_cancelled_of_never untouched)
    with completed | ⟨_, _, _, impossible⟩
  · exact completed
  · exact absurd ⟨possible, keeps⟩ impossible

end LocalizationRun

end NodeLocale
