import NodeLocale.Proofs.Localization.Completion
import NodeLocale.Proofs.Localization.Matching

/-!
# Leftovers of earlier runs

A run removes, when it completes, the files of its own batches. An earlier run that cut the nodes
into more batches, and did not complete, may have left more files behind: those stay, and a later
run resumes them if their nodes match. So behind a completed run nothing is resumed of the batches
that it went through itself, and whatever is resumed beyond them was left over by an earlier run.
-/

namespace NodeLocale

open FileTree

/-! ### Trees that hold no more than earlier ones -/

/-- Whether a path leads to no file that was not there before. -/
structure NoneAdded (before after : FileTree) (path : Path) : Prop where
  workingDirectory : after.workingDirectory = before.workingDirectory
  older : ∀ content, after.content? path = some content → before.content? path = some content

namespace NoneAdded

variable {before after last : FileTree} {path : Path} {places : List Place}

theorem trans (first : NoneAdded before after path) (second : NoneAdded after last path) :
    NoneAdded before last path :=
  ⟨second.workingDirectory.trans first.workingDirectory,
    fun content standing => first.older content (second.older content standing)⟩

theorem of_keptAt (sameStart : after.workingDirectory = before.workingDirectory)
    (kept : KeptAt before after (path.target before.workingDirectory)) :
    NoneAdded before after path := by
  refine ⟨sameStart, ?_⟩
  intro content standing
  rw [← kept.content?_eq sameStart, standing]

theorem of_removed (removed : Removed before after places) : NoneAdded before after path := by
  refine ⟨removed.workingDirectory, ?_⟩
  intro content standing
  rw [content?_eq_some_iff, removed.workingDirectory] at standing
  exact content?_eq_some_iff.2 (removed.fewer _ _ standing)

end NoneAdded

/-- Saving nodes and their log adds no file elsewhere, whether it fails or not. -/
theorem Reconciled.noneAdded_save {tree : FileTree} {nodesFile logFile path : Path}
    (reconciled : Reconciled)
    (notNodes : ∀ start, path.target start ≠ nodesFile.target start)
    (notLog : ∀ start, path.target start ≠ logFile.target start) :
    NoneAdded tree (reconciled.save tree nodesFile logFile).1 path := by
  have nodesSaved : NoneAdded tree (Artifact.saveText tree nodesFile
      (Artifact.text reconciled.nodes.toJson)).1 path :=
    .of_keptAt (Artifact.workingDirectory_saveText _ _ _) (Artifact.keptAt_saveText (notNodes _))
  rw [save, Artifact.saveJson]
  split <;> rename_i saved
  · rwa [saved] at nodesSaved
  · rw [saved] at nodesSaved
    exact nodesSaved.trans (.of_keptAt (Artifact.workingDirectory_saveText _ _ _)
      (Artifact.keptAt_saveText (notLog _)))

theorem LocalizationService.Spares.noneAdded {service : LocalizationService} {tree : FileTree}
    {path : Path} (spared : service.Spares (path.target tree.workingDirectory))
    (request : LocalizationRequest) : NoneAdded tree (service tree request).1 path :=
  .of_keptAt (spared.workingDirectory tree request) (.of_eq (spared.node? tree request))

namespace LocalizationRun

variable {run : LocalizationRun} {nodes : NodeMap} {tree : FileTree} {batch : Batch}
  {course : List (Batch × Handling)} {rest : List Batch} {before last : RunState}
  {total index : Nat} {output plugin : Path}

/-! ### One run -/

/-- Whether a plugin is not called like the file of any batch. -/
def Unlike (plugin : Path) : Prop :=
  ∀ index : Nat, pluginName plugin ≠ "batch_" ++ toString index ++ "_translated"

theorem target_batchFile_ne_finalFile (unlike : Unlike plugin) (start : Place) :
    ((OutputDirs.ofPlugin output plugin).batchFile index).target start ≠
      (OutputDirs.ofPlugin output plugin).finalFile.target start := by
  rw [OutputDirs.target_batchFile, OutputDirs.target_finalFile]
  intro same
  have names := List.append_cancel_left same
  simp only [List.cons.injEq, and_true, true_and] at names
  exact unlike index (OutputDirs.finalName_eq_batchName_iff.1 names.symm)

theorem target_batchFile_ne_finalLogFile (dirs : OutputDirs) (start : Place) :
    (dirs.batchFile index).target start ≠ dirs.finalLogFile.target start := by
  rw [OutputDirs.target_batchFile, OutputDirs.target_finalLogFile]
  intro same
  simpa using List.append_cancel_left same

theorem noneAdded_of_step {error : TranslateError}
    (step : BatchStep run total batch before last (.error error)) (different : index ≠ batch.index)
    (spared : run.service.Spares
      ((run.dirs.batchFile index).target before.tree.workingDirectory)) :
    NoneAdded before.tree last.tree (run.dirs.batchFile index) := by
  have asked : NoneAdded before.tree (run.afterRequest total batch before).tree
      (run.dirs.batchFile index) := spared.noneAdded (run.request batch)
  cases step with
  | serviceFailed absent answered => exact asked
  | panicked absent answered uncounted => exact asked
  | replyUnusable absent answered counted unread => exact asked
  | @notSaved _ _ candidate after _ absent answered counted read unsaved =>
    have saving : NoneAdded (run.afterRequest total batch before).tree
        (run.saveBatch (run.afterRequest total batch before).tree batch
          (reconcileBatch batch.nodes candidate)).1 (run.dirs.batchFile index) :=
      Reconciled.noneAdded_save _ (fun _ => OutputDirs.target_batchFile_ne different)
        (fun _ => OutputDirs.target_batchFile_ne_batchLogFile _ _)
    rw [unsaved] at saving
    exact asked.trans saving

theorem Reaches.noneAdded (reached : run.Reaches tree nodes course rest last)
    (spared : run.service.Spares ((run.dirs.batchFile index).target tree.workingDirectory))
    (unrequested : ∀ request ∈ last.requests, request.batch ≠ index) :
    NoneAdded tree last.tree (run.dirs.batchFile index) := by
  have unsaved : ∀ entry ∈ course, entry.1.index = index →
      entry.2.saves run.dirs entry.1 = [] := by
    rintro ⟨batch, saved | ⟨reply, candidate⟩⟩ member same
    · rfl
    · have requested := reached.mem_requests_iff.2 ⟨batch, reply, candidate, member, rfl⟩
      exact absurd same (unrequested _ requested)
  exact .of_keptAt (reached.saves.workingDirectory spared)
    (reached.saves.keptAt spared fun _ member => (target_ne_of_mem_saves unsaved member).1)

theorem noneAdded_finish (named : run.dirs = .ofPlugin output plugin) (unlike : Unlike plugin)
    (pending : NodeMap) :
    NoneAdded last.tree (run.finish pending total last).1.tree (run.dirs.batchFile index) := by
  have notFinal (start : Place) :
      (run.dirs.batchFile index).target start ≠ run.dirs.finalFile.target start := by
    rw [named]
    exact target_batchFile_ne_finalFile unlike start
  have saving : NoneAdded last.tree
      (run.saveResult last.tree (run.validated pending last)).1 (run.dirs.batchFile index) :=
    Reconciled.noneAdded_save _ notFinal (target_batchFile_ne_finalLogFile run.dirs)
  rcases kept : run.saveResult last.tree (run.validated pending last) with ⟨tree, error | _⟩
  · rw [kept] at saving
    rw [finish_of_unsaved kept]
    exact saving
  · rw [kept] at saving
    rw [finish_of_saved kept, tree_afterResult]
    split
    · exact saving
    · exact saving.trans (.of_removed (removed_removeFiles tree last.tempFiles))

/-- Whether a run requests a batch of an index. -/
def Requests (run : LocalizationRun) (tree : FileTree) (nodes : NodeMap) (index : Nat) : Prop :=
  ∃ request ∈ (run.execute tree nodes).1.requests, request.batch = index

/-- A run adds no files for batches that it does not request. -/
theorem noneAdded_execute (named : run.dirs = .ofPlugin output plugin) (unlike : Unlike plugin)
    (spared : run.service.Spares ((run.dirs.batchFile index).target tree.workingDirectory))
    (unrequested : ¬ run.Requests tree nodes index) :
    NoneAdded tree (run.execute tree nodes).1.tree (run.dirs.batchFile index) := by
  have unasked : ∀ request ∈ (run.execute tree nodes).1.requests, request.batch ≠ index := by
    intro request member same
    exact unrequested ⟨request, member, same⟩
  have ends := courseEnd_execute run tree nodes
  generalize run.execute tree nodes = result at ends unasked ⊢
  rcases result with ⟨after, outcome⟩
  dsimp only at ends unasked ⊢
  cases ends with
  | unprepared unsaved =>
    have grown := Artifact.grown_of_saveText_eq_error unsaved
    exact .of_keptAt grown.workingDirectory (grown.keptAt _)
  | cancelled reached more => exact reached.noneAdded spared unasked
  | @failed course batch rest before _ error reached step =>
    rcases requested_of_step step with ⟨-, requests, -⟩
    rw [requests] at unasked
    have earlier := reached.noneAdded spared fun request member =>
      unasked request (List.mem_append_left _ member)
    have different : index ≠ batch.index :=
      (unasked _ (List.mem_append_right _ (List.mem_singleton_self _))).symm
    rw [← earlier.workingDirectory] at spared
    exact earlier.trans (noneAdded_of_step step different spared)
  | @finished course last _ _ reached ended =>
    have finishing : NoneAdded last.tree
        (run.finish nodes.withoutSources (run.batches nodes).length last).1.tree
          (run.dirs.batchFile index) := noneAdded_finish named unlike nodes.withoutSources
    have requests : (run.finish nodes.withoutSources (run.batches nodes).length last).1.requests =
        last.requests := requests_finish
    rw [ended] at finishing requests
    rw [requests] at unasked
    exact (reached.noneAdded spared unasked).trans finishing

/-! ### One completed run -/

theorem exists_resolve_of_step (step : BatchStep run total batch before last (.ok ())) :
    ∃ (other : FileTree) (place : Place),
      other.resolve (run.dirs.batchFile batch.index) = .ok place := by
  have unseparated := (run.dirs.isArtifact_batchFile batch.index).unseparated
  cases step with
  | resumed found =>
    rcases savedBatch?_eq_some_iff.1 found with ⟨-, -, content, shown, -⟩
    rcases (look_eq_file_iff unseparated).1 shown with ⟨place, resolved, -⟩
    exact ⟨_, place, resolved⟩
  | translated absent answered counted read saved =>
    rcases (look_eq_file_iff unseparated).1 (look_batchFile_of_saveBatch saved) with
      ⟨place, resolved, -⟩
    exact ⟨_, place, resolved⟩

theorem Processed.exists_resolve {done : List Batch} {first : RunState}
    (processed : Processed run total done first last) (member : batch ∈ done) :
    ∃ (other : FileTree) (place : Place),
      other.resolve (run.dirs.batchFile batch.index) = .ok place := by
  induction processed with
  | none => simp at member
  | next earlier unseen step ih =>
    rcases List.mem_append.1 member with older | latest
    · exact ih older
    · obtain rfl := List.mem_singleton.1 latest
      exact exists_resolve_of_step step

/-- Where the result was saved, the files of all batches that were reached before are reached. -/
theorem resolve_batchFile_of_look {dirs : OutputDirs} {other : FileTree} {place : Place}
    {content : ByteArray} (named : dirs = .ofPlugin output plugin)
    (shown : tree.look dirs.finalFile = .ok (.file content))
    (elsewhere : other.resolve (dirs.batchFile index) = .ok place) :
    ∃ there, tree.resolve (dirs.batchFile index) = .ok there := by
  have plain : Path.IsPlainName (dirs.plugin ++ ".json") := by
    rw [named]
    exact OutputDirs.plain_final plugin
  have unseparated : dirs.finalFile.endsWithSeparator = false := by
    rw [named]
    exact (OutputDirs.isArtifact_finalFile output plugin).unseparated
  have nonempty := Path.text_child_ne_empty dirs.root OutputDirs.plain_localized
  rcases (look_eq_file_iff unseparated).1 shown with ⟨_, resolved, -⟩
  rcases resolve_child_eq_ok plain nonempty resolved with ⟨directory, reached, standing, -⟩
  exact ⟨_, resolve_child (OutputDirs.plain_batch index) elsewhere reached standing⟩

/-- A completed run removes the files of its batches. -/
theorem content?_eq_none_of_completed {result : CompletedRun}
    (named : run.dirs = .ofPlugin output plugin) (removes : run.options.keepTemp = false)
    (completed : (run.execute tree nodes).2 = .ok (.completed result))
    (member : batch ∈ run.batches nodes) :
    (run.execute tree nodes).1.tree.content? (run.dirs.batchFile batch.index) = none := by
  rcases processed_of_completed completed with
    ⟨prepared, last, saved, -, -, processed, kept, reached, -⟩
  have tempFiles : last.tempFiles = run.removable nodes :=
    processed.tempFiles rfl (nodup_index_batches run nodes)
  have after : (run.execute tree nodes).1.tree = removeFiles saved (run.removable nodes) := by
    rw [reached, tree_afterResult, removes, tempFiles]
    rfl
  have listed : run.dirs.batchFile batch.index ∈ run.removable nodes :=
    List.mem_cons_of_mem _ (List.mem_map.2 ⟨batch, member, rfl⟩)
  have removed := removed_removeFiles saved (run.removable nodes)
  have gone := isFile_removeFiles (fun path => unseparated_of_mem_removable) saved _ listed
  rcases processed.exists_resolve member with ⟨other, _, elsewhere⟩
  rcases resolve_batchFile_of_look named (look_of_saveResult named kept).1 elsewhere with
    ⟨place, resolved⟩
  have leads := resolve_of_directoriesStand removed.directoriesStand resolved
  rw [after, Option.eq_none_iff_forall_ne_some]
  intro content standing
  have unseparated := (run.dirs.isArtifact_batchFile batch.index).unseparated
  rw [content?_eq_some_iff, ← resolve_eq_ok leads] at standing
  rw [isFile_iff.2 ⟨content, (look_eq_file_iff unseparated).2 ⟨place, leads, standing⟩⟩] at gone
  simp at gone

theorem exists_batch_of_index_le (positive : 0 < index)
    (within : index ≤ (run.batches nodes).length) : ∃ batch ∈ run.batches nodes,
      batch.index = index := by
  have member : index ∈ (run.batches nodes).map Batch.index := by
    rw [map_index_batches, List.mem_range'_1]
    omega
  exact List.mem_map.1 member

theorem index_le_length (member : batch ∈ run.batches nodes) :
    batch.index ≤ (run.batches nodes).length := by
  rcases List.append_of_mem member with ⟨front, back, split⟩
  rw [index_of_batches split, split, List.length_append, List.length_cons]
  omega

/-- A run leaves alone where paths start. -/
theorem workingDirectory_execute (named : run.dirs = .ofPlugin output plugin)
    (unlike : Unlike plugin)
    (spared : run.service.Spares ((run.dirs.batchFile 0).target tree.workingDirectory)) :
    (run.execute tree nodes).1.tree.workingDirectory = tree.workingDirectory := by
  -- Batches are counted from 1, so there is no batch 0 to be requested.
  have unrequested : ¬ run.Requests tree nodes 0 := by
    rintro ⟨request, member, index⟩
    rcases exists_of_mem_requests member with ⟨batch, batchMember, rfl⟩
    have positive := index_pos batchMember
    change batch.index = 0 at index
    omega
  exact (noneAdded_execute named unlike spared unrequested).workingDirectory

end LocalizationRun

/-! ### Histories of runs -/

/-- A run and the nodes that it translates. -/
structure Job where
  run : LocalizationRun
  nodes : NodeMap

namespace Job

open LocalizationRun

variable {output plugin : Path} {start tree : FileTree} {history : List Job} {job last next : Job}
  {batch : Batch} {index : Nat}

abbrev batches (job : Job) : List Batch := job.run.batches job.nodes

/-- The files behind some jobs, which were done one after another. -/
def after (start : FileTree) (history : List Job) : FileTree :=
  history.foldl (fun tree job => (job.run.execute tree job.nodes).1.tree) start

theorem after_concat : after start (history ++ [job]) =
    (job.run.execute (after start history) job.nodes).1.tree := by
  simp [after]

/-- Whether a job removes the file of a batch: it completes, and the batch is one of its own. -/
structure Clears (job : Job) (tree : FileTree) (index : Nat) : Prop where
  completes : ∃ result, (job.run.execute tree job.nodes).2 = .ok (.completed result)
  removes : job.run.options.keepTemp = false
  own : ∃ batch ∈ job.batches, batch.index = index

/-- Whether a file of a batch may be left over behind some jobs: it was there from the start or a
job requested the batch, and no job has removed it since. -/
inductive LeftOver (file : Path) (start : FileTree) (index : Nat) : List Job → Prop
  | stood {content : ByteArray} (standing : start.content? file = some content) :
      LeftOver file start index []
  | saved {history : List Job} {job : Job}
      (requested : job.run.Requests (after start history) job.nodes index)
      (kept : ¬ job.Clears (after start history) index) :
      LeftOver file start index (history ++ [job])
  | passedOn {history : List Job} {job : Job} (earlier : LeftOver file start index history)
      (kept : ¬ job.Clears (after start history) index) :
      LeftOver file start index (history ++ [job])

/-- Whether a job works in the directories of a plugin, with a service that leaves the files of
batches alone. -/
structure WorksIn (output plugin : Path) (start : Place) (job : Job) : Prop where
  dirs : job.run.dirs = .ofPlugin output plugin
  spared : ∀ index, job.run.service.Spares
    (((OutputDirs.ofPlugin output plugin).batchFile index).target start)

/-- What one job does: a file that is there afterwards was there before or was saved for a batch
that the job requested, and it was not removed. -/
theorem leftOver_step {content : ByteArray} (unlike : Unlike plugin)
    (works : WorksIn output plugin tree.workingDirectory job)
    (standing : (job.run.execute tree job.nodes).1.tree.content?
      ((OutputDirs.ofPlugin output plugin).batchFile index) = some content) :
    (tree.content? ((OutputDirs.ofPlugin output plugin).batchFile index) = some content ∨
      job.run.Requests tree job.nodes index) ∧ ¬ job.Clears tree index := by
  have spared := works.spared index
  rw [← works.dirs] at spared standing ⊢
  constructor
  · by_cases requested : job.run.Requests tree job.nodes index
    · exact Or.inr requested
    · exact Or.inl ((noneAdded_execute works.dirs unlike spared requested).older content standing)
  · rintro ⟨⟨result, completed⟩, removes, batch, member, rfl⟩
    have gone := content?_eq_none_of_completed works.dirs removes completed member
    simp [gone] at standing

theorem workingDirectory_after (unlike : Unlike plugin)
    (works : ∀ job ∈ history, WorksIn output plugin start.workingDirectory job) :
    (after start history).workingDirectory = start.workingDirectory := by
  induction history using List.reverseRecOn with
  | nil => rfl
  | append_singleton history job ih =>
    simp only [List.forall_mem_append, List.forall_mem_singleton] at works
    have earlier := ih works.1
    have spared := works.2.spared 0
    rw [← earlier, ← works.2.dirs] at spared
    rw [after_concat, workingDirectory_execute works.2.dirs unlike spared, earlier]

/-- Whatever file of a batch is there behind some jobs is left over from them. -/
theorem leftOver_of_content? (unlike : Unlike plugin)
    (works : ∀ job ∈ history, WorksIn output plugin start.workingDirectory job)
    {content : ByteArray} (standing : (after start history).content?
      ((OutputDirs.ofPlugin output plugin).batchFile index) = some content) :
    LeftOver ((OutputDirs.ofPlugin output plugin).batchFile index) start index history := by
  induction history using List.reverseRecOn generalizing content with
  | nil => exact .stood standing
  | append_singleton history job ih =>
    simp only [List.forall_mem_append, List.forall_mem_singleton] at works
    have worksNow := works.2
    rw [← workingDirectory_after unlike works.1] at worksNow
    rw [after_concat] at standing
    rcases leftOver_step unlike worksNow standing with ⟨older | requested, kept⟩
    · exact .passedOn (ih works.1 older) kept
    · exact .saved requested kept

/-- What is left over behind a completed job lies beyond its batches. -/
theorem LeftOver.beyond {file : Path} (left : LeftOver file start index (history ++ [last]))
    (positive : 0 < index) (removes : last.run.options.keepTemp = false)
    (completes : ∃ result, (last.run.execute (after start history) last.nodes).2 =
      .ok (.completed result)) :
    last.batches.length < index := by
  have kept : ¬ last.Clears (after start history) index := by
    generalize whole : history ++ [last] = jobs at left
    cases left with
    | stood standing => simp at whole
    | saved requested kept =>
      obtain ⟨rfl, rfl⟩ := List.append_singleton_inj.1 whole
      exact kept
    | passedOn earlier kept =>
      obtain ⟨rfl, rfl⟩ := List.append_singleton_inj.1 whole
      exact kept
  apply Nat.lt_of_not_le
  intro within
  exact kept ⟨completes, removes, exists_batch_of_index_le positive within⟩

/-- What is left over was there from the start or belongs to a job with so many batches. -/
theorem LeftOver.exists_job {file : Path} (left : LeftOver file start index history) :
    (∃ content, start.content? file = some content) ∨
      ∃ job ∈ history, index ≤ job.batches.length := by
  induction left with
  | stood standing => exact Or.inl ⟨_, standing⟩
  | @saved history job requested kept =>
    rcases requested with ⟨request, member, rfl⟩
    rcases exists_of_mem_requests member with ⟨batch, batchMember, rfl⟩
    exact Or.inr ⟨job, by simp, index_le_length batchMember⟩
  | passedOn earlier kept ih =>
    rcases ih with stood | ⟨job, member, within⟩
    · exact Or.inl stood
    · exact Or.inr ⟨job, List.mem_append_left _ member, within⟩

/-- What a job finds for a batch behind other jobs is left over from them. -/
theorem leftOver_of_matches (unlike : Unlike plugin)
    (works : ∀ job ∈ history, WorksIn output plugin start.workingDirectory job)
    (nextWorks : WorksIn output plugin start.workingDirectory next)
    (matching : next.run.Matches (after start history) batch) :
    LeftOver ((OutputDirs.ofPlugin output plugin).batchFile batch.index) start batch.index
      history := by
  rcases matching with ⟨content, saved, standing, -⟩
  rw [nextWorks.dirs] at standing
  exact leftOver_of_content? unlike works standing

/-- Behind a completed job that removes its files, a batch is resumed only if it lies beyond the
batches of that job and was left over from jobs before. All others to which the next job comes are
requested; and so are all of them if no job before had more batches than the completed one. -/
theorem requested_after_completed {result : CompletedRun}
    {ended : RunState × Except TranslateError RunOutcome} (unlike : Unlike plugin)
    (works : ∀ job ∈ history ++ [last], WorksIn output plugin start.workingDirectory job)
    (nextWorks : WorksIn output plugin start.workingDirectory next)
    (removes : last.run.options.keepTemp = false)
    (completed : (last.run.execute (after start history) last.nodes).2 =
      .ok (.completed result))
    (ran : next.run.execute (after start (history ++ [last])) next.nodes = ended)
    (member : batch ∈ next.batches) :
    (ReportsResumed next.batches.length batch.index ended.1 →
      last.batches.length < batch.index ∧
        LeftOver ((OutputDirs.ofPlugin output plugin).batchFile batch.index) start batch.index
          (history ++ [last])) ∧
    (batch.index ≤ reachedBatches next.batches.length ended.2 →
      batch.index ≤ last.batches.length ∨
        ¬ LeftOver ((OutputDirs.ofPlugin output plugin).batchFile batch.index) start batch.index
          (history ++ [last]) →
      next.run.request batch ∈ ended.1.requests) ∧
    (batch.index ≤ reachedBatches next.batches.length ended.2 →
      (∀ index, start.HasNoFile ((OutputDirs.ofPlugin output plugin).batchFile index)) →
      (∀ job ∈ history, job.batches.length ≤ last.batches.length) →
      next.run.request batch ∈ ended.1.requests) := by
  subst ran
  have positive := index_pos member
  have spared := nextWorks.spared batch.index
  rw [← nextWorks.dirs, ← workingDirectory_after unlike works] at spared
  have beyond (left : LeftOver ((OutputDirs.ofPlugin output plugin).batchFile batch.index) start
      batch.index (history ++ [last])) : last.batches.length < batch.index :=
    left.beyond positive removes ⟨result, completed⟩
  refine ⟨?_, ?_, ?_⟩
  · intro reported
    have matching := (matches_of_resumed member spared reported).2.1
    have left := leftOver_of_matches unlike works nextWorks matching
    exact ⟨beyond left, left⟩
  · intro within covered
    apply requested_of_unmatched member spared within
    intro matching
    have left := leftOver_of_matches unlike works nextWorks matching.2
    rcases covered with own | none
    · exact absurd own (Nat.not_le.2 (beyond left))
    · exact none left
  · intro within nothingSaved fewer
    apply requested_of_unmatched member spared within
    intro matching
    have left := leftOver_of_matches unlike works nextWorks matching.2
    have more := beyond left
    rcases left.exists_job with ⟨content, standing⟩ | ⟨job, listed, most⟩
    · rw [content?_eq_none_iff.2 (nothingSaved batch.index)] at standing
      simp at standing
    · rcases List.mem_append.1 listed with older | latest
      · have bounded := fewer job older
        omega
      · obtain rfl := List.mem_singleton.1 latest
        omega

/-- A job with three batches that fails at the third one. -/
def longJob : Job :=
  ⟨replying (fun request =>
      if request.batch = 3 then .error "down" else steadyReplies request)
    sampleOptions (sampleDirs "pack") .never, threeNodes⟩

/-- A job for the same nodes that completes with a single batch. -/
def shortJob : Job :=
  ⟨replying steadyReplies { sampleOptions with batchSize := 3 } (sampleDirs "pack") .never,
    threeNodes⟩

/-- A job for the same nodes that resumes what it finds, with three batches again. -/
def resumingJob : Job :=
  ⟨resuming steadyReplies sampleOptions (sampleDirs "pack"), threeNodes⟩

theorem worksIn_replying (replies : LocalizationRequest → Except String ServiceReply)
    (options : RunOptions) (output plugin : Path) (nodes : NodeMap) (place : Place) :
    WorksIn output plugin place
      ⟨replying replies options (.ofPlugin output plugin) .never, nodes⟩ :=
  ⟨rfl, fun _ => LocalizationService.spares_ofReplies _ _⟩

theorem unlike_pack : Unlike ⟨"pack"⟩ := by
  intro index same
  have letters := congrArg String.toList same
  rw [show pluginName ⟨"pack"⟩ = "pack" by decide +kernel] at letters
  simp at letters

set_option maxRecDepth 100000 in
/-- What the short job and the resuming one come to behind the long one. -/
theorem resumingJob_ran :
    (completedRun? (shortJob.run.execute (after newTree [longJob]) shortJob.nodes).2).isSome =
        true ∧
      ReportsResumed 3 2 (resumingJob.run.execute (after newTree [longJob, shortJob])
        resumingJob.nodes).1 ∧
      (resumingJob.run.execute (after newTree [longJob, shortJob])
        resumingJob.nodes).1.requests.map LocalizationRequest.batch = [1, 3] ∧
      (completedRun? (resumingJob.run.execute (after newTree [longJob, shortJob])
        resumingJob.nodes).2).isSome = true := by
  decide +kernel

/-- Behind the short job, the first batch is requested and the second one is left over. -/
theorem requested_after_completed_of_shortJob : ∃ first ∈ resumingJob.batches,
    first.index = 1 ∧
      resumingJob.run.request first ∈ (resumingJob.run.execute
        (after newTree [longJob, shortJob]) resumingJob.nodes).1.requests ∧
      LeftOver ((sampleDirs "pack").batchFile 2) newTree 2 [longJob, shortJob] := by
  have works : ∀ job ∈ [longJob] ++ [shortJob],
      WorksIn ⟨"out"⟩ ⟨"pack"⟩ newTree.workingDirectory job := by
    intro job listed
    rcases List.mem_cons.1 listed with rfl | later
    · exact worksIn_replying ..
    · obtain rfl := List.mem_singleton.1 later
      exact worksIn_replying ..
  have nextWorks : WorksIn ⟨"out"⟩ ⟨"pack"⟩ newTree.workingDirectory resumingJob :=
    worksIn_replying ..
  have lengths : resumingJob.batches.length = 3 ∧ shortJob.batches.length = 1 := by decide +kernel
  rcases resumingJob_ran with ⟨completes, reported, -, completesToo⟩
  rcases Option.isSome_iff_exists.1 completes with ⟨result, found⟩
  rcases Option.isSome_iff_exists.1 completesToo with ⟨_, foundToo⟩
  have completed := completedRun?_eq_some_iff.1 found
  have completedToo := completedRun?_eq_some_iff.1 foundToo
  have jobs : [longJob, shortJob] = [longJob] ++ [shortJob] := rfl
  rw [jobs] at reported completedToo ⊢
  generalize ran : resumingJob.run.execute (after newTree ([longJob] ++ [shortJob]))
    resumingJob.nodes = ended at reported completedToo ⊢
  rcases exists_batch_of_index_le Nat.one_pos (by rw [lengths.1]; decide) with
    ⟨first, firstMember, firstIndex⟩
  rcases exists_batch_of_index_le Nat.two_pos (by rw [lengths.1]; decide) with
    ⟨second, secondMember, secondIndex⟩
  have ofFirst :=
    requested_after_completed unlike_pack works nextWorks rfl completed ran firstMember
  have ofSecond :=
    requested_after_completed unlike_pack works nextWorks rfl completed ran secondMember
  rw [firstIndex, completedToo, lengths.1, lengths.2] at ofFirst
  rw [secondIndex, lengths.1] at ofSecond
  have within : 1 ≤ 3 := by decide
  exact ⟨first, firstMember, firstIndex, ofFirst.2.1 within (Or.inl Nat.le.refl),
    (ofSecond.1 reported).2⟩

/-- Behind the short job, which completes, the second batch of the long one is resumed. -/
theorem resumed_after_completed :
    (∃ result, (shortJob.run.execute (after newTree [longJob]) shortJob.nodes).2 =
        .ok (.completed result)) ∧
      shortJob.run.options.keepTemp = false ∧
      ReportsResumed 3 2 (resumingJob.run.execute (after newTree [longJob, shortJob])
        resumingJob.nodes).1 ∧
      (resumingJob.run.execute (after newTree [longJob, shortJob])
        resumingJob.nodes).1.requests.map LocalizationRequest.batch = [1, 3] := by
  rcases resumingJob_ran with ⟨completes, reported, requested, -⟩
  rcases Option.isSome_iff_exists.1 completes with ⟨result, found⟩
  exact ⟨⟨result, completedRun?_eq_some_iff.1 found⟩, rfl, reported, requested⟩

end Job

end NodeLocale
