import NodeLocale.Proofs.Files.OutputPlaces
import NodeLocale.Proofs.Files.Reloading
import NodeLocale.Proofs.Localization.Steps
import NodeLocale.Proofs.Reconcile.Shape

/-!
# Saved batches

Saving a batch writes its nodes and its log and leaves all other files alone. What was saved is
what a resuming run finds, since the nodes are loaded as they were saved and have the keys of the
batch; and where no file was saved, nothing is resumed.
-/

namespace NodeLocale

theorem keys_reconcileBatch (source : NodeMap) (candidate : JsonObject) :
    (reconcileBatch source candidate).nodes.keys = source.keys :=
  OrderedMap.keys_mapValues _ source

namespace OutputDirs

variable {dirs : OutputDirs} {start : Place}

theorem target_batchFile_ne {left right : Nat} (different : left ≠ right) :
    (dirs.batchFile left).target start ≠ (dirs.batchFile right).target start := by
  rw [target_batchFile, target_batchFile]
  intro same
  have names := List.append_cancel_left same
  simp only [List.cons.injEq, and_true, true_and] at names
  exact different (batchName_injective names)

theorem target_batchFile_ne_batchLogFile (left right : Nat) :
    (dirs.batchFile left).target start ≠ (dirs.batchLogFile right).target start := by
  rw [target_batchFile, target_batchLogFile]
  intro same
  simpa using List.append_cancel_left same

theorem target_pendingFile_ne_batchFile (batch : Nat) :
    dirs.pendingFile.target start ≠ (dirs.batchFile batch).target start := by
  rw [target_pendingFile, target_batchFile]
  intro same
  simpa using List.append_cancel_left same

theorem target_pendingFile_ne_batchLogFile (batch : Nat) :
    dirs.pendingFile.target start ≠ (dirs.batchLogFile batch).target start := by
  rw [target_pendingFile, target_batchLogFile]
  intro same
  simpa using List.append_cancel_left same

end OutputDirs

namespace LocalizationRun

variable {run : LocalizationRun} {batch : Batch} {reconciled : Reconciled}
  {before after : FileTree}

/-- Saving a batch saves its nodes and then its log. -/
theorem savedAs_of_saveBatch (saved : run.saveBatch before batch reconciled = (after, .ok ())) :
    ∃ between,
      SavedAs before between (run.dirs.batchFile batch.index)
        (Artifact.text reconciled.nodes.toJson) ∧
      SavedAs between after (run.dirs.batchLogFile batch.index)
        (Artifact.linesText reconciled.log.lines) := by
  obtain ⟨between, nodesSaved, logSaved⟩ := Reconciled.save_eq_ok_iff.1 saved
  exact ⟨between, Artifact.savedAs_of_saveText nodesSaved,
    Artifact.savedAs_of_saveText logSaved⟩

/-- The nodes of a saved batch are in its file. -/
theorem look_batchFile_of_saveBatch
    (saved : run.saveBatch before batch reconciled = (after, .ok ())) :
    after.look (run.dirs.batchFile batch.index) =
      .ok (.file (Artifact.text reconciled.nodes.toJson).toUTF8) := by
  obtain ⟨between, nodesSaved, logSaved⟩ := savedAs_of_saveBatch saved
  exact logSaved.look_of_ne (run.dirs.isArtifact_batchFile batch.index).unseparated
    (OutputDirs.target_batchFile_ne_batchLogFile _ _) nodesSaved.shown

/-- Saving a batch leaves a file at another place as it is. -/
theorem look_of_saveBatch (saved : run.saveBatch before batch reconciled = (after, .ok ()))
    {other : Path} (unseparated : other.endsWithSeparator = false)
    (notNodes : ∀ start, other.target start ≠ (run.dirs.batchFile batch.index).target start)
    (notLog : ∀ start, other.target start ≠ (run.dirs.batchLogFile batch.index).target start)
    {content : ByteArray} (shown : before.look other = .ok (.file content)) :
    after.look other = .ok (.file content) := by
  obtain ⟨between, nodesSaved, logSaved⟩ := savedAs_of_saveBatch saved
  exact logSaved.look_of_ne unseparated (notLog _)
    (nodesSaved.look_of_ne unseparated (notNodes _) shown)

/-- Saving a batch leaves the nodes of another batch in their file. -/
theorem look_batchFile_of_ne (saved : run.saveBatch before batch reconciled = (after, .ok ()))
    {other : Nat} (different : other ≠ batch.index) {content : ByteArray}
    (shown : before.look (run.dirs.batchFile other) = .ok (.file content)) :
    after.look (run.dirs.batchFile other) = .ok (.file content) :=
  look_of_saveBatch saved (run.dirs.isArtifact_batchFile other).unseparated
    (fun _ => OutputDirs.target_batchFile_ne different)
    (fun _ => OutputDirs.target_batchFile_ne_batchLogFile other batch.index) shown

/-- Saving a batch does not make a file of another batch. -/
theorem hasNoFile_of_saveBatch (saved : run.saveBatch before batch reconciled = (after, .ok ()))
    {other : Nat} (different : other ≠ batch.index)
    (none : before.HasNoFile (run.dirs.batchFile other)) :
    after.HasNoFile (run.dirs.batchFile other) := by
  obtain ⟨between, nodesSaved, logSaved⟩ := savedAs_of_saveBatch saved
  exact logSaved.hasNoFile_of_ne (OutputDirs.target_batchFile_ne_batchLogFile _ _)
    (nodesSaved.hasNoFile_of_ne (OutputDirs.target_batchFile_ne different) none)

/-! ### Resuming -/

/-- A batch is resumed if its file holds a node map with the keys of the batch. -/
theorem savedBatch?_eq_some_iff {tree : FileTree} {saved : NodeMap} :
    run.savedBatch? tree batch = some saved ↔
      run.options.resume = true ∧ saved.keys = batch.nodes.keys ∧
        ∃ content, tree.look (run.dirs.batchFile batch.index) = .ok (.file content) ∧
          Artifact.nodesIn? content = some saved := by
  rw [← Artifact.loadNodes_eq_ok_iff, savedBatch?]
  constructor
  · intro found
    split at found
    · rename_i resumes
      rw [Bool.and_eq_true] at resumes
      split at found
      · rename_i nodes loaded
        split at found
        · rename_i keys
          obtain rfl := Option.some.inj found
          exact ⟨resumes.1, keys, loaded⟩
        · simp at found
      · simp at found
    · simp at found
  · rintro ⟨resumes, keys, loaded⟩
    rcases Artifact.loadNodes_eq_ok_iff.1 loaded with ⟨content, shown, -⟩
    have isFile := FileTree.isFile_iff.2 ⟨content, shown⟩
    simp [resumes, isFile, loaded, keys]

/-- Without its file a batch is not resumed. -/
theorem savedBatch?_eq_none {tree : FileTree}
    (none : tree.HasNoFile (run.dirs.batchFile batch.index)) :
    run.savedBatch? tree batch = Option.none := by
  have absent := none.isFile_eq_false (run.dirs.isArtifact_batchFile batch.index).unseparated
  rw [savedBatch?, absent, Bool.and_false]
  rfl

/-- A batch is resumed from the file in which its nodes were saved. -/
theorem savedBatch?_of_look {tree : FileTree} {nodes : NodeMap}
    (resumes : run.options.resume = true) (keys : nodes.keys = batch.nodes.keys)
    (shown : tree.look (run.dirs.batchFile batch.index) =
      .ok (.file (Artifact.text nodes.toJson).toUTF8)) :
    run.savedBatch? tree batch = some nodes.withoutSources := by
  have isFile := FileTree.isFile_iff.2 ⟨_, shown⟩
  rw [savedBatch?, resumes, isFile, Artifact.loadNodes_of_look shown]
  simp [NodeMap.keys_withoutSources, keys]

end LocalizationRun

end NodeLocale
