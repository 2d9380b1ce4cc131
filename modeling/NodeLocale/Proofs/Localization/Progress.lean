import Mathlib.Data.List.Nodup
import NodeLocale.Proofs.Localization.Course
import NodeLocale.Proofs.Localization.SavedBatches
import NodeLocale.Proofs.Localization.Saves

/-!
# What a run leaves on disk as it goes

Along its course a run saves its pending nodes and, for each batch that it translates, the nodes
and the log of that batch, each in a file of its own. So whenever it stops, all of them are there,
the batches that were resumed are still in the files from which they were resumed, and whatever
else stood anywhere stands there still.
-/

namespace NodeLocale

open FileTree

namespace OutputDirs

variable {dirs : OutputDirs} {start : Place}

theorem batchLogName_injective {left right : Nat}
    (same : "batch_" ++ toString left ++ "_corrections.log" =
      "batch_" ++ toString right ++ "_corrections.log") : left = right :=
  Text.numbered_injective same

theorem target_batchLogFile_ne {left right : Nat} (different : left ≠ right) :
    (dirs.batchLogFile left).target start ≠ (dirs.batchLogFile right).target start := by
  rw [target_batchLogFile, target_batchLogFile]
  intro same
  have names := List.append_cancel_left same
  simp only [List.cons.injEq, and_true, true_and] at names
  exact different (batchLogName_injective names)

end OutputDirs

/-- What is saved for a batch that is handled so. -/
def Handling.saves (dirs : OutputDirs) (batch : Batch) : Handling → List (Path × String)
  | resumed _ => []
  | translated _ candidate =>
    let reconciled := reconcileBatch batch.nodes candidate
    [(dirs.batchFile batch.index, Artifact.text reconciled.nodes.toJson),
      (dirs.batchLogFile batch.index, Artifact.linesText reconciled.log.lines)]

theorem Handling.path_of_mem_saves {dirs : OutputDirs} {batch : Batch} {handling : Handling}
    {save : Path × String} (member : save ∈ handling.saves dirs batch) :
    save.1 = dirs.batchFile batch.index ∨ save.1 = dirs.batchLogFile batch.index := by
  cases handling with
  | resumed saved => simp [saves] at member
  | translated reply candidate =>
    simp only [saves, List.mem_cons, List.not_mem_nil, or_false] at member
    rcases member with rfl | rfl
    · exact Or.inl rfl
    · exact Or.inr rfl

namespace LocalizationRun

variable {run : LocalizationRun} {nodes : NodeMap} {course : List (Batch × Handling)}
  {first before last : RunState} {tree prepared after : FileTree} {start place : Place}
  {rest : List Batch} {total : Nat}

variable (run nodes) in
/-- What a run has saved behind a course. -/
def saves (course : List (Batch × Handling)) : List (Path × String) :=
  (run.dirs.pendingFile, Artifact.text nodes.withoutSources.toJson) ::
    course.flatMap fun entry => entry.2.saves run.dirs entry.1

theorem saves_concat (batch : Batch) (handling : Handling) :
    run.saves nodes (course ++ [(batch, handling)]) =
      run.saves nodes course ++ handling.saves run.dirs batch := by
  simp [saves]

theorem Handles.saves {batch : Batch} {handling : Handling} {list : List (Path × String)}
    (handled : run.Handles total batch before handling last)
    (went : Saves run.service tree list before.tree) :
    Saves run.service tree (list ++ handling.saves run.dirs batch) last.tree := by
  cases handled with
  | resumed found =>
    rw [Handling.saves, List.append_nil]
    exact went
  | translated absent answered counted read saved =>
    rcases Reconciled.save_eq_ok_iff.1 saved with ⟨between, nodesSaved, logSaved⟩
    have asked := went.asked (run.request batch)
    have both := (asked.saved (run.dirs.isArtifact_batchFile batch.index) nodesSaved).saved
      (run.dirs.isArtifact_batchLogFile batch.index) logSaved
    rw [List.append_assoc] at both
    exact both

theorem Course.saves
    (saved : Artifact.saveJson tree run.dirs.pendingFile nodes.withoutSources.toJson =
      (prepared, .ok ()))
    (taken : run.Course total (run.opening prepared nodes) course last) :
    Saves run.service tree (run.saves nodes course) last.tree := by
  induction taken with
  | start => exact Saves.none.saved run.dirs.isArtifact_pendingFile saved
  | next earlier passed unseen handled ih =>
    rw [saves_concat]
    exact handled.saves ih

theorem Reaches.saves (reached : run.Reaches tree nodes course rest last) :
    Saves run.service tree (run.saves nodes course) last.tree := by
  rcases reached.taken with ⟨prepared, saved, taken⟩
  exact taken.saves saved

theorem Handles.requests {batch : Batch} {handling : Handling}
    (handled : run.Handles total batch before handling last) :
    last.requests = before.requests ++ handling.requests run batch := by
  cases handled with
  | resumed found => exact (List.append_nil _).symm
  | translated absent answered counted read saved => rfl

/-- The service was asked for the batches that were translated. -/
theorem Course.requests (taken : run.Course total first course last) :
    last.requests =
      first.requests ++ course.flatMap fun entry => entry.2.requests run entry.1 := by
  induction taken with
  | start => simp
  | next earlier passed unseen handled ih => simp [handled.requests, ih]

theorem Reaches.requests (reached : run.Reaches tree nodes course rest last) :
    last.requests = course.flatMap fun entry => entry.2.requests run entry.1 := by
  rcases reached.taken with ⟨prepared, -, taken⟩
  exact taken.requests

theorem Handling.mem_requests_iff {batch : Batch} {handling : Handling}
    {request : LocalizationRequest} :
    request ∈ handling.requests run batch ↔
      (∃ reply candidate, handling = .translated reply candidate) ∧
        request = run.request batch := by
  cases handling <;> simp [Handling.requests]

theorem Reaches.mem_requests_iff (reached : run.Reaches tree nodes course rest last)
    {request : LocalizationRequest} :
    request ∈ last.requests ↔ ∃ batch reply candidate,
      (batch, .translated reply candidate) ∈ course ∧ request = run.request batch := by
  rw [reached.requests, List.mem_flatMap]
  constructor
  · rintro ⟨⟨batch, handling⟩, member, requested⟩
    rcases Handling.mem_requests_iff.1 requested with ⟨⟨reply, candidate, rfl⟩, same⟩
    exact ⟨batch, reply, candidate, member, same⟩
  · rintro ⟨batch, reply, candidate, member, same⟩
    exact ⟨_, member, Handling.mem_requests_iff.2 ⟨⟨reply, candidate, rfl⟩, same⟩⟩

/-! ### The files of a course are different -/

theorem nodup_index_batches (run : LocalizationRun) (nodes : NodeMap) :
    ((run.batches nodes).map Batch.index).Nodup :=
  Batch.nodup_index_partition run.options.batchSize nodes.withoutSources

theorem Reaches.nodup_index (reached : run.Reaches tree nodes course rest last) :
    (course.map fun entry => entry.1.index).Nodup := by
  have distinct := nodup_index_batches run nodes
  rw [reached.split, List.map_append, List.nodup_append, List.map_map] at distinct
  exact distinct.1

/-- A batch that was not translated has nothing saved in its files. -/
theorem target_ne_of_mem_saves {index : Nat}
    (unsaved : ∀ entry ∈ course, entry.1.index = index → entry.2.saves run.dirs entry.1 = [])
    {save : Path × String} (member : save ∈ run.saves nodes course) :
    (run.dirs.batchFile index).target start ≠ save.1.target start ∧
      (run.dirs.batchLogFile index).target start ≠ save.1.target start := by
  rcases List.mem_cons.1 member with rfl | later
  · exact ⟨(OutputDirs.target_pendingFile_ne_batchFile index).symm,
      (OutputDirs.target_pendingFile_ne_batchLogFile index).symm⟩
  · rcases List.mem_flatMap.1 later with ⟨entry, entryMember, saved⟩
    have different : index ≠ entry.1.index := by
      intro same
      rw [unsaved entry entryMember same.symm] at saved
      simp at saved
    rcases Handling.path_of_mem_saves saved with nodesFile | logFile
    · rw [nodesFile]
      exact ⟨OutputDirs.target_batchFile_ne different,
        (OutputDirs.target_batchFile_ne_batchLogFile _ _).symm⟩
    · rw [logFile]
      exact ⟨OutputDirs.target_batchFile_ne_batchLogFile _ _,
        OutputDirs.target_batchLogFile_ne different⟩

theorem nodup_handling_saves (batch : Batch) (handling : Handling) :
    ((handling.saves run.dirs batch).map fun save => save.1.target start).Nodup := by
  cases handling with
  | resumed saved => simp [Handling.saves]
  | translated reply candidate =>
    simp only [Handling.saves, List.map_cons, List.map_nil, List.nodup_cons, List.mem_singleton,
      List.not_mem_nil, not_false_eq_true, List.nodup_nil, and_true]
    exact OutputDirs.target_batchFile_ne_batchLogFile _ _

/-- All files that a run saves behind a course are at different places. -/
theorem nodup_saves (distinct : (course.map fun entry => entry.1.index).Nodup) :
    ((run.saves nodes course).map fun save => save.1.target start).Nodup := by
  induction course using List.reverseRecOn with
  | nil => simp [saves]
  | append_singleton front entry ih =>
    rw [List.map_append, List.nodup_append] at distinct
    rcases distinct with ⟨distinctFront, -, different⟩
    rw [saves_concat, List.map_append, List.nodup_append]
    refine ⟨ih distinctFront, nodup_handling_saves _ _, ?_⟩
    intro _ earlier _ later
    rcases List.mem_map.1 earlier with ⟨save, saveMember, rfl⟩
    rcases List.mem_map.1 later with ⟨other, otherMember, rfl⟩
    have apart : (run.dirs.batchFile entry.1.index).target start ≠ save.1.target start ∧
        (run.dirs.batchLogFile entry.1.index).target start ≠ save.1.target start :=
      target_ne_of_mem_saves (fun older olderMember same => absurd same
        (different _ (List.mem_map_of_mem olderMember) _ (by simp))) saveMember
    rcases Handling.path_of_mem_saves otherMember with nodesFile | logFile
    · rw [nodesFile]
      exact apart.1.symm
    · rw [logFile]
      exact apart.2.symm

/-! ### Resumed batches -/

theorem savedBatch?_content? {batch : Batch} {saved : NodeMap}
    (found : run.savedBatch? tree batch = some saved) :
    run.options.resume = true ∧ saved.keys = batch.nodes.keys ∧
      ∃ content, tree.content? (run.dirs.batchFile batch.index) = some content ∧
        Artifact.nodesIn? content = some saved := by
  rcases savedBatch?_eq_some_iff.1 found with ⟨resumes, keys, content, shown, held⟩
  have unseparated := (run.dirs.isArtifact_batchFile batch.index).unseparated
  exact ⟨resumes, keys, content, content?_of_look shown unseparated, held⟩

/-- The files of a batch that was not translated are as they were. -/
theorem content?_of_untranslated {index : Nat}
    (spared : run.service.Spares ((run.dirs.batchFile index).target tree.workingDirectory))
    (unsaved : ∀ entry ∈ course, entry.1.index = index → entry.2.saves run.dirs entry.1 = [])
    (went : Saves run.service tree (run.saves nodes course) after) :
    after.content? (run.dirs.batchFile index) = tree.content? (run.dirs.batchFile index) := by
  have kept := went.keptAt spared fun save member => (target_ne_of_mem_saves unsaved member).1
  exact kept.content?_eq (went.workingDirectory spared)

/-- What was resumed for a batch was in its file from the start. -/
theorem Course.content?_of_resumed {batch : Batch} {nodesThere : NodeMap}
    (saved : Artifact.saveJson tree run.dirs.pendingFile nodes.withoutSources.toJson =
      (prepared, .ok ()))
    (taken : run.Course total (run.opening prepared nodes) course last)
    (distinct : (course.map fun entry => entry.1.index).Nodup)
    (member : (batch, .resumed nodesThere) ∈ course)
    (spared : run.service.Spares
      ((run.dirs.batchFile batch.index).target tree.workingDirectory)) :
    run.options.resume = true ∧ nodesThere.keys = batch.nodes.keys ∧
      ∃ content, tree.content? (run.dirs.batchFile batch.index) = some content ∧
        Artifact.nodesIn? content = some nodesThere := by
  induction taken with
  | start => simp at member
  | next earlier passed unseen handled ih =>
    rw [List.map_append, List.nodup_append] at distinct
    rcases distinct with ⟨distinctFront, -, different⟩
    rcases List.mem_append.1 member with older | latest
    · exact ih distinctFront older
    · obtain ⟨rfl, rfl⟩ := Prod.mk.inj (List.mem_singleton.1 latest)
      cases handled with
      | resumed found =>
        rw [← content?_of_untranslated spared _ (earlier.saves saved)]
        · exact savedBatch?_content? found
        · intro entry entryMember same
          exact absurd same (different _ (List.mem_map_of_mem entryMember) _ (by simp))

/-! ### Progress -/

/-- What a run has done to the files behind a course. What it says of a place is said of places
that the service leaves alone. -/
structure Progress (run : LocalizationRun) (tree : FileTree) (nodes : NodeMap)
    (course : List (Batch × Handling)) (after : FileTree) : Prop where
  pending : run.service.Spares (run.dirs.pendingFile.target tree.workingDirectory) →
    after.content? run.dirs.pendingFile =
      some (Artifact.text nodes.withoutSources.toJson).toUTF8
  translated : ∀ batch reply candidate, (batch, .translated reply candidate) ∈ course →
    run.service.Spares ((run.dirs.batchFile batch.index).target tree.workingDirectory) →
      after.content? (run.dirs.batchFile batch.index) =
        some (Artifact.text (reconcileBatch batch.nodes candidate).nodes.toJson).toUTF8
  logged : ∀ batch reply candidate, (batch, .translated reply candidate) ∈ course →
    run.service.Spares ((run.dirs.batchLogFile batch.index).target tree.workingDirectory) →
      after.content? (run.dirs.batchLogFile batch.index) =
        some (Artifact.linesText (reconcileBatch batch.nodes candidate).log.lines).toUTF8
  resumed : ∀ batch saved, (batch, .resumed saved) ∈ course →
    run.service.Spares ((run.dirs.batchFile batch.index).target tree.workingDirectory) →
      ∃ content, Artifact.nodesIn? content = some saved ∧
        tree.content? (run.dirs.batchFile batch.index) = some content ∧
        after.content? (run.dirs.batchFile batch.index) = some content
  /-- The files of all other batches are as they were. -/
  others : ∀ index, (∀ entry ∈ course, entry.1.index ≠ index) →
    run.service.Spares ((run.dirs.batchFile index).target tree.workingDirectory) →
      after.content? (run.dirs.batchFile index) = tree.content? (run.dirs.batchFile index)
  /-- Elsewhere nothing is removed or replaced. -/
  elsewhere : ∀ place, run.service.Spares place →
    (∀ save ∈ run.saves nodes course, place ≠ save.1.target tree.workingDirectory) →
      KeptAt tree after place
  /-- What comes elsewhere are directories that were missing on the way to what is saved. -/
  outside : ∀ place, run.service.Spares place →
    (∀ save ∈ run.saves nodes course, place ≠ save.1.target tree.workingDirectory ∧
      ∀ directory, save.1.OnWay directory → place ≠ directory.target tree.workingDirectory) →
      after.node? place = tree.node? place
  /-- No file is removed. -/
  noneRemoved : ∀ place, run.service.Spares place → ∀ content,
    tree.node? place = some (.file content) → ∃ left, after.node? place = some (.file left)

theorem Reaches.progress (reached : run.Reaches tree nodes course rest last)
    (went : Saves run.service tree (run.saves nodes course) after) :
    run.Progress tree nodes course after := by
  have distinct := reached.nodup_index
  have mem_saves : ∀ entry ∈ course, ∀ save ∈ entry.2.saves run.dirs entry.1,
      save ∈ run.saves nodes course := by
    intro entry member save saved
    exact List.mem_cons_of_mem _ (List.mem_flatMap.2 ⟨entry, member, saved⟩)
  constructor
  case pending =>
    intro spared
    exact went.content?_eq spared (nodup_saves distinct) List.mem_cons_self
  case translated =>
    intro batch reply candidate member spared
    apply went.content?_eq spared (nodup_saves distinct)
    exact mem_saves _ member _ List.mem_cons_self
  case logged =>
    intro batch reply candidate member spared
    apply went.content?_eq spared (nodup_saves distinct)
    exact mem_saves _ member _ (List.mem_cons_of_mem _ List.mem_cons_self)
  case resumed =>
    intro batch nodesThere member spared
    rcases reached.taken with ⟨prepared, saved, taken⟩
    rcases taken.content?_of_resumed saved distinct member spared with
      ⟨-, -, content, standing, held⟩
    have unsaved : ∀ entry ∈ course, entry.1.index = batch.index →
        entry.2.saves run.dirs entry.1 = [] := by
      intro entry entryMember same
      rw [List.inj_on_of_nodup_map distinct entryMember member same]
      rfl
    exact ⟨content, held, standing,
      (content?_of_untranslated spared unsaved went).trans standing⟩
  case others =>
    intro index absent spared
    exact content?_of_untranslated spared
      (fun entry member same => absurd same (absent entry member)) went
  case elsewhere =>
    intro place spared apart
    exact went.keptAt spared apart
  case outside =>
    intro place spared apart
    exact went.node?_eq spared apart
  case noneRemoved =>
    intro place spared content standing
    by_cases apart : ∀ save ∈ run.saves nodes course,
      place ≠ save.1.target tree.workingDirectory
    · exact ⟨content, (went.keptAt spared apart).stays _ standing⟩
    · simp only [ne_eq, not_forall, not_not] at apart
      rcases apart with ⟨save, member, rfl⟩
      have left := went.content?_eq spared (nodup_saves distinct) member
      rw [content?_eq_some_iff, went.workingDirectory spared] at left
      exact ⟨_, left⟩

end LocalizationRun

end NodeLocale
