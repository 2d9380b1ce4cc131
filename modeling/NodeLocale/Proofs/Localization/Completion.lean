import NodeLocale.Proofs.Files.OutputPlaces
import NodeLocale.Proofs.Files.Removal
import NodeLocale.Proofs.Localization.Batches
import NodeLocale.Proofs.Localization.Endings

/-!
# What a completed run leaves on disk

A completed run removes its pending nodes and the files of its batches, and nothing else. Its log
stays, and so do the translated nodes, unless the plugin is called like the file of one of the
batches: then the translated nodes were written into that file and are removed with it.
-/

namespace NodeLocale

namespace OutputDirs

open NodeLocale.Path

variable {dirs : OutputDirs}

theorem parts_pendingFile : dirs.pendingFile.parts =
    dirs.root.parts ++ [.name "temp", .name "nodes_to_translate.json"] := by
  rw [pendingFile, temp, parts_child _ plain_pending, parts_child _ plain_temp,
    List.append_assoc, List.singleton_append]

theorem parts_batchFile (batch : Nat) : (dirs.batchFile batch).parts =
    dirs.root.parts ++
      [.name "translations", .name ("batch_" ++ toString batch ++ "_translated.json")] := by
  rw [batchFile, localized, parts_child _ (plain_batch batch), parts_child _ plain_localized,
    List.append_assoc, List.singleton_append]

theorem same_batchFile_pendingFile (batch : Nat) :
    (dirs.batchFile batch).same dirs.pendingFile = false := by
  rw [Path.same, decide_eq_false_iff_not, parts_batchFile, parts_pendingFile]
  intro same
  simpa using List.append_cancel_left same

theorem same_batchFile {left right : Nat} (different : left ≠ right) :
    (dirs.batchFile left).same (dirs.batchFile right) = false := by
  rw [Path.same, decide_eq_false_iff_not, parts_batchFile, parts_batchFile]
  intro same
  have names := List.append_cancel_left same
  simp only [List.cons.injEq, Path.Part.name.injEq, and_true, true_and] at names
  exact different (batchName_injective names)

end OutputDirs

namespace LocalizationRun

variable {run : LocalizationRun} {total : Nat} {start tree : FileTree} {nodes : NodeMap}
  {result : CompletedRun}

/-! ### The files that are registered for removal -/

theorem registerTemp_of_different {registered : List Path} {path : Path}
    (different : ∀ other ∈ registered, path.same other = false) :
    registerTemp registered path = registered ++ [path] := by
  rw [registerTemp, if_neg]
  simpa using different

/-- A processed batch registers its file. -/
theorem tempFiles_of_step {batch : Batch} {before after : RunState}
    (step : BatchStep run total batch before after (.ok ())) :
    after.tempFiles = registerTemp before.tempFiles (run.dirs.batchFile batch.index) := by
  cases step with
  | resumed found => rfl
  | translated absent answered counted read saved => rfl

/-- The registered files are the pending nodes and the files of the batches. -/
theorem Processed.tempFiles {done : List Batch} {first last : RunState}
    (processed : Processed run total done first last)
    (pending : first.tempFiles = [run.dirs.pendingFile])
    (distinct : (done.map Batch.index).Nodup) :
    last.tempFiles =
      run.dirs.pendingFile :: done.map fun batch => run.dirs.batchFile batch.index := by
  induction processed with
  | none => exact pending
  | @next done batch _ before after earlier unseen step ih =>
    rw [List.map_append, List.nodup_append] at distinct
    rw [tempFiles_of_step step, ih pending distinct.1, registerTemp_of_different]
    · simp
    · intro other member
      rcases List.mem_cons.1 member with rfl | older
      · exact OutputDirs.same_batchFile_pendingFile batch.index
      · obtain ⟨earlierBatch, earlierMember, rfl⟩ := List.mem_map.1 older
        refine OutputDirs.same_batchFile fun same => ?_
        exact distinct.2.2 _ (List.mem_map_of_mem earlierMember) _ (by simp) same.symm

/-! ### The same run without removal -/

/-- The run that keeps what it registers. -/
def keeping (run : LocalizationRun) : LocalizationRun :=
  { run with options := { run.options with keepTemp := true } }

theorem processBatches_keeping (batches : List Batch) (state : RunState) :
    run.keeping.processBatches total batches state = run.processBatches total batches state := by
  induction batches generalizing state with
  | nil => rfl
  | cons batch rest ih =>
    have sameStep : run.keeping.processBatch total batch state = _ := processBatch_changed state
    have sameSignal : run.keeping.cancel = run.cancel := rfl
    rw [processBatches, processBatches, sameStep, sameSignal]
    simp only [ih]

/-- A run that keeps what it registers stops right before the removal. -/
theorem tree_execute_keeping {prepared : FileTree} {last : RunState}
    (saved : Artifact.saveJson start run.dirs.pendingFile nodes.withoutSources.toJson =
      (prepared, .ok ()))
    (went : run.processBatches (run.batches nodes).length (run.batches nodes)
      (run.opening prepared nodes) = (last, .ok none))
    (kept : run.saveResult last.tree (run.validated nodes.withoutSources last) =
      (tree, .ok ())) : (run.keeping.execute start nodes).1.tree = tree := by
  have whole := execute_of_saved run.keeping saved
  have wentKeeping : run.keeping.processBatches (run.keeping.batches nodes).length
      (run.keeping.batches nodes) (run.keeping.opening prepared nodes) = (last, .ok none) :=
    (processBatches_keeping _ _).trans went
  have keptKeeping : run.keeping.saveResult last.tree
      (run.keeping.validated nodes.withoutSources last) = (tree, .ok ()) := kept
  rw [wentKeeping] at whole
  rw [whole]
  simp only [finish_of_saved keptKeeping, tree_afterResult]
  rfl

/-! ### The files of a completed run -/

/-- Whether a plugin is called like the file of one of the batches. -/
def CalledLikeBatch (run : LocalizationRun) (nodes : NodeMap) (plugin : Path) : Prop :=
  ∃ batch ∈ run.batches nodes,
    pluginName plugin = "batch_" ++ toString batch.index ++ "_translated"

instance (run : LocalizationRun) (nodes : NodeMap) (plugin : Path) :
    Decidable (run.CalledLikeBatch nodes plugin) :=
  inferInstanceAs (Decidable (∃ batch ∈ run.batches nodes, _))

variable (run nodes) in
/-- The files that a completed run removes. -/
def removable : List Path :=
  run.dirs.pendingFile :: (run.batches nodes).map fun batch => run.dirs.batchFile batch.index

theorem unseparated_of_mem_removable {path : Path} (member : path ∈ run.removable nodes) :
    path.endsWithSeparator = false := by
  rcases List.mem_cons.1 member with rfl | later
  · exact run.dirs.isArtifact_pendingFile.unseparated
  · obtain ⟨batch, _, rfl⟩ := List.mem_map.1 later
    exact (run.dirs.isArtifact_batchFile batch.index).unseparated

/-- The final log is not among the removed files. -/
theorem target_finalLogFile_not_mem (place : Place) :
    run.dirs.finalLogFile.target place ∉
      (run.removable nodes).map fun path => path.target place := by
  intro removed
  obtain ⟨path, member, same⟩ := List.mem_map.1 removed
  rcases List.mem_cons.1 member with rfl | later
  · rw [OutputDirs.target_pendingFile, OutputDirs.target_finalLogFile] at same
    simpa using List.append_cancel_left same
  · obtain ⟨batch, _, rfl⟩ := List.mem_map.1 later
    rw [OutputDirs.target_batchFile, OutputDirs.target_finalLogFile] at same
    simpa using List.append_cancel_left same

/-- The translated nodes are among the removed files only if the plugin is called like one. -/
theorem target_finalFile_not_mem {output plugin : Path} (named : run.dirs = .ofPlugin output plugin)
    (free : ¬ run.CalledLikeBatch nodes plugin) (place : Place) :
    run.dirs.finalFile.target place ∉
      (run.removable nodes).map fun path => path.target place := by
  intro removed
  obtain ⟨path, member, same⟩ := List.mem_map.1 removed
  rw [named, OutputDirs.target_finalFile] at same
  rcases List.mem_cons.1 member with rfl | later
  · rw [named, OutputDirs.target_pendingFile] at same
    simpa using List.append_cancel_left same
  · obtain ⟨batch, batchMember, rfl⟩ := List.mem_map.1 later
    rw [named, OutputDirs.target_batchFile] at same
    have names := List.append_cancel_left same
    simp only [List.cons.injEq, and_true, true_and] at names
    exact free ⟨batch, batchMember, OutputDirs.finalName_eq_batchName_iff.1 names.symm⟩

/-- A plugin that is called like a batch has its translated nodes in the file of the batch. -/
theorem finalFile_mem_removable {output plugin : Path} (named : run.dirs = .ofPlugin output plugin)
    (called : run.CalledLikeBatch nodes plugin) : run.dirs.finalFile ∈ run.removable nodes := by
  obtain ⟨batch, member, name⟩ := called
  have sameName := OutputDirs.finalName_eq_batchName_iff.2 name
  refine List.mem_cons_of_mem _ (List.mem_map.2 ⟨batch, member, ?_⟩)
  rw [named, OutputDirs.finalFile, OutputDirs.batchFile]
  exact congrArg _ sameName.symm

/-- Saving the result leaves the translated nodes and the log in their files. -/
theorem look_of_saveResult {output plugin : Path} (named : run.dirs = .ofPlugin output plugin)
    {before after : FileTree} {reconciled : Reconciled}
    (saved : run.saveResult before reconciled = (after, .ok ())) :
    after.look run.dirs.finalFile =
        .ok (.file (Artifact.text reconciled.nodes.toJson).toUTF8) ∧
      after.look run.dirs.finalLogFile =
        .ok (.file (Artifact.linesText reconciled.log.lines).toUTF8) := by
  obtain ⟨between, nodesSaved, logSaved⟩ := Reconciled.save_eq_ok_iff.1 saved
  have artifact : run.dirs.finalFile.IsArtifact :=
    named ▸ OutputDirs.isArtifact_finalFile output plugin
  have nodesKept := Artifact.savedAs_of_saveText nodesSaved
  have logKept := Artifact.savedAs_of_saveText logSaved
  refine ⟨logKept.look_of_ne artifact.unseparated ?_ nodesKept.shown, logKept.shown⟩
  rw [named, OutputDirs.target_finalFile, OutputDirs.target_finalLogFile]
  intro same
  simpa using List.append_cancel_left same

/-- A completed run keeps its translated nodes on disk if and only if the plugin is not called
like the file of a batch. It keeps its log, removes its pending nodes and the files of its
batches, and leaves every other place as it was before the removal. -/
theorem finalFile_kept_iff {output plugin : Path} (named : run.dirs = .ofPlugin output plugin)
    (removes : run.options.keepTemp = false)
    (completed : (run.execute start nodes).2 = .ok (.completed result)) :
    ((run.execute start nodes).1.tree.readText run.dirs.finalFile =
        .ok (Artifact.text result.nodes.toJson) ↔ ¬ run.CalledLikeBatch nodes plugin) ∧
      (run.CalledLikeBatch nodes plugin →
        (run.execute start nodes).1.tree.isFile run.dirs.finalFile = false) ∧
      (run.execute start nodes).1.tree.readText run.dirs.finalLogFile =
        .ok (Artifact.linesText result.finalLog.lines) ∧
      (∀ path ∈ run.removable nodes, (run.execute start nodes).1.tree.isFile path = false) ∧
      Removed (run.keeping.execute start nodes).1.tree (run.execute start nodes).1.tree
        ((run.removable nodes).map fun path =>
          path.target (run.keeping.execute start nodes).1.tree.workingDirectory) := by
  obtain ⟨prepared, last, tree, saved, went, processed, kept, reached, rfl⟩ :=
    processed_of_completed completed
  have tempFiles : last.tempFiles = run.removable nodes := by
    refine processed.tempFiles rfl ?_
    rw [batches, Batch.map_index_partition]
    exact List.nodup_range'
  have after : (run.execute start nodes).1.tree = removeFiles tree (run.removable nodes) := by
    rw [reached, tree_afterResult, removes, tempFiles]
    rfl
  have removed := removed_removeFiles tree (run.removable nodes)
  have gone : ∀ path ∈ run.removable nodes,
      (removeFiles tree (run.removable nodes)).isFile path = false :=
    isFile_removeFiles (fun path member => unseparated_of_mem_removable member) tree
  have called : run.CalledLikeBatch nodes plugin →
      (removeFiles tree (run.removable nodes)).isFile run.dirs.finalFile = false :=
    fun called => gone _ (finalFile_mem_removable named called)
  obtain ⟨nodesShown, logShown⟩ := look_of_saveResult named kept
  rw [after, tree_execute_keeping saved went kept]
  refine ⟨⟨fun read called' => ?_, fun free => ?_⟩, called, ?_, gone, removed⟩
  · have isFile := FileTree.isFile_of_readText read
    rw [called called'] at isFile
    simp at isFile
  · refine FileTree.readText_of_look (removed.look ?_ ?_ nodesShown)
    · rw [named]
      exact (OutputDirs.isArtifact_finalFile output plugin).unseparated
    · exact target_finalFile_not_mem named free tree.workingDirectory
  · refine FileTree.readText_of_look (removed.look ?_ ?_ logShown)
    · exact run.dirs.isArtifact_finalLogFile.unseparated
    · exact target_finalLogFile_not_mem tree.workingDirectory

/-- A run that translates nothing. -/
def echoRun (plugin : String) : LocalizationRun :=
  { sampleRun fun _ => Json.compact (.object []) with dirs := sampleDirs plugin }

set_option maxRecDepth 100000 in
/-- The plugin `pack` keeps its translated nodes. -/
theorem finalFile_kept_of_pack : ∃ result,
    ((echoRun "pack").execute .empty sampleNode).2 = .ok (.completed result) ∧
      ((echoRun "pack").execute .empty sampleNode).1.tree.readText (echoRun "pack").dirs.finalFile =
        .ok (Artifact.text result.nodes.toJson) := by
  have completes :
      (completedRun? ((echoRun "pack").execute .empty sampleNode).2).isSome = true := by
    decide +kernel
  obtain ⟨result, found⟩ := Option.isSome_iff_exists.1 completes
  have completed := completedRun?_eq_some_iff.1 found
  have free : ¬ (echoRun "pack").CalledLikeBatch sampleNode ⟨"pack"⟩ := by decide +kernel
  exact ⟨result, completed, (finalFile_kept_iff rfl rfl completed).1.2 free⟩

set_option maxRecDepth 100000 in
/-- The plugin `batch_1_translated` loses its translated nodes when its run completes. -/
theorem finalFile_lost_of_batch_1_translated :
    (completedRun? ((echoRun "batch_1_translated").execute .empty sampleNode).2).isSome = true ∧
      ((echoRun "batch_1_translated").execute .empty sampleNode).1.tree.isFile
        (echoRun "batch_1_translated").dirs.finalFile = false := by
  decide +kernel

end LocalizationRun

end NodeLocale
