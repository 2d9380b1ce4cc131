import NodeLocale.Proofs.Localization.Failure
import NodeLocale.Proofs.Localization.KeptShape

/-!
# Which batches are resumed

A batch is resumed only if its file holds a node map with the keys of the batch in their order. Any
other file is passed over, and the batch is requested again. What the nodes of a saved batch hold is
not compared with the nodes of the batch: a file that was saved when a node had other fields is
resumed all the same, and only the final validation makes up for that.
-/

namespace NodeLocale

open FileTree

namespace LocalizationRun

variable {run : LocalizationRun} {nodes : NodeMap} {tree prepared : FileTree} {batch : Batch}
  {course : List (Batch × Handling)} {tried rest : List Batch}
  {first before state last : RunState} {total index : Nat}

/-! ### Events of resumed batches -/

/-- Whether it was reported that a batch is resumed. -/
def ReportsResumed (total index : Nat) (state : RunState) : Prop :=
  .batchResumed index total ∈ state.events

instance (total index : Nat) (state : RunState) : Decidable (ReportsResumed total index state) :=
  inferInstanceAs (Decidable (_ ∈ _))

theorem reportsResumed_afterRequest :
    ReportsResumed total index (run.afterRequest total batch state) ↔
      ReportsResumed total index state := by
  simp [ReportsResumed, afterRequest, RunState.report]

theorem reportsResumed_afterReply {usage : Option TokenUsage} {tokens : TokenUsage} :
    ReportsResumed total index (run.afterReply total batch usage tokens state) ↔
      ReportsResumed total index state := by
  cases usage <;> simp [ReportsResumed, afterReply, usageReports, afterRequest, RunState.report]

theorem reportsResumed_of_step {error : TranslateError}
    (step : BatchStep run total batch before last (.error error)) :
    ReportsResumed total index last ↔ ReportsResumed total index before := by
  cases step with
  | serviceFailed absent answered => exact reportsResumed_afterRequest
  | panicked absent answered uncounted => exact reportsResumed_afterRequest
  | replyUnusable absent answered counted unread => exact reportsResumed_afterReply
  | @notSaved reply tokens _ _ _ absent answered counted read unsaved =>
    have replied : ReportsResumed total index
        (run.afterReply total batch reply.usage tokens before) ↔ _ :=
      reportsResumed_afterReply
    exact replied

theorem Handles.reportsResumed_iff {handling : Handling}
    (handled : run.Handles total batch before handling last) :
    ReportsResumed total index last ↔ ReportsResumed total index before ∨
      batch.index = index ∧ ∃ saved, handling = .resumed saved := by
  cases handled with
  | @resumed saved found =>
    simp only [ReportsResumed, afterResuming, RunState.merge, RunState.register, RunState.report,
      List.mem_append, List.mem_singleton, RunEvent.batchResumed.injEq, and_true,
      Handling.resumed.injEq, exists_eq', eq_comm]
  | @translated reply tokens _ _ absent answered counted read saved =>
    have replied : ReportsResumed total index
        (run.afterReply total batch reply.usage tokens before) ↔ _ :=
      reportsResumed_afterReply
    simpa [ReportsResumed, afterSaving, RunState.merge, RunState.register, RunState.report]
      using replied

/-- The batches that are reported as resumed are those that were resumed. -/
theorem Course.reportsResumed_iff (taken : run.Course total first course last) :
    ReportsResumed total index last ↔ ReportsResumed total index first ∨
      ∃ entry ∈ course, entry.1.index = index ∧ ∃ saved, entry.2 = .resumed saved := by
  induction taken with
  | start => simp
  | next earlier passed unseen handled ih =>
    rw [handled.reportsResumed_iff, ih]
    simp [or_assoc, or_and_right, exists_or]

theorem reportsResumed_finish (pending : NodeMap) :
    ReportsResumed total index (run.finish pending total state).1 ↔
      ReportsResumed total index state := by
  rcases kept : run.saveResult state.tree (run.validated pending state) with ⟨tree, error | _⟩
  · rw [finish_of_unsaved kept]
    simp [ReportsResumed, RunState.report]
  · rw [finish_of_saved kept, afterResult, cleanUp]
    split <;> simp [ReportsResumed, RunState.report]

/-! ### What a whole run did -/

/-- The number of batches to which a run came, given how it ended. -/
def reachedBatches (total : Nat) : Except TranslateError RunOutcome → Nat
  | .ok (.completed _) => total
  | .ok (.cancelled finished _) => finished
  | .error (.finalize _) => total
  | .error error => error.batch?.getD 0

/-- Whether a run took a course to a state and after that at most tried one batch more. -/
structure Ran (run : LocalizationRun) (tree : FileTree) (nodes : NodeMap)
    (course : List (Batch × Handling)) (tried rest : List Batch) (state : RunState) : Prop where
  reached : run.Reaches tree nodes course (tried ++ rest) state
  absent : ∀ batch ∈ tried, run.savedBatch? state.tree batch = none
  requests : (run.execute tree nodes).1.requests = state.requests ++ tried.map run.request
  reports : ∀ index,
    ReportsResumed (run.batches nodes).length index (run.execute tree nodes).1 ↔
      ReportsResumed (run.batches nodes).length index state
  count : reachedBatches (run.batches nodes).length (run.execute tree nodes).2 =
    course.length + tried.length

theorem reachedBatches_of_batch? {error : TranslateError} (failed : error.batch? = some index) :
    reachedBatches total (.error error) = index := by
  cases error <;> simp_all [reachedBatches, TranslateError.batch?]

theorem reachedBatches_finish (pending : NodeMap) :
    reachedBatches total (run.finish pending total state).2 = total := by
  rcases kept : run.saveResult state.tree (run.validated pending state) with ⟨tree, error | _⟩
  · rw [finish_of_unsaved kept]
    rfl
  · rw [finish_of_saved kept]
    rfl

theorem ran_execute
    (saved : Artifact.saveJson tree run.dirs.pendingFile nodes.withoutSources.toJson =
      (prepared, .ok ())) :
    ∃ course tried rest state, run.Ran tree nodes course tried rest state := by
  have ends := courseEnd_execute run tree nodes
  generalize whole : run.execute tree nodes = result at ends
  rcases result with ⟨after, outcome⟩
  dsimp only at ends
  cases ends with
  | unprepared unsaved => simp [saved] at unsaved
  | @cancelled course rest _ reached more =>
    refine ⟨course, [], rest, _, reached, by simp, by simp [whole], by simp [whole], ?_⟩
    rw [whole]
    rfl
  | @failed course batch rest before _ error reached step =>
    rcases requested_of_step step with ⟨absent, requests, failed⟩
    refine ⟨course, [batch], rest, before, reached, by simpa using absent, ?_, ?_, ?_⟩
    · simp [whole, requests]
    · intro index
      rw [whole, reportsResumed_of_step step]
    · rw [whole, reachedBatches_of_batch? failed, index_of_batches reached.split, List.length_map]
      rfl
  | @finished course last _ _ reached ended =>
    refine ⟨course, [], [], last, reached, by simp, ?_, ?_, ?_⟩
    · rw [reached.execute_of_nil, requests_finish, List.map_nil, List.append_nil]
    · intro index
      rw [reached.execute_of_nil, reportsResumed_finish]
    · rw [reached.execute_of_nil, reachedBatches_finish, reached.length_batches]

theorem ran_or_unprepared (run : LocalizationRun) (tree : FileTree) (nodes : NodeMap) :
    (∃ course tried rest state, run.Ran tree nodes course tried rest state) ∨
      (run.execute tree nodes).1.events = [] ∧ (run.execute tree nodes).1.requests = [] ∧
        reachedBatches (run.batches nodes).length (run.execute tree nodes).2 = 0 := by
  rcases saved : Artifact.saveJson tree run.dirs.pendingFile nodes.withoutSources.toJson
    with ⟨prepared, error | _⟩
  · rw [execute_of_unsaved run saved]
    exact Or.inr ⟨rfl, rfl, rfl⟩
  · exact Or.inl (ran_execute saved)

theorem index_pos (member : batch ∈ run.batches nodes) : 0 < batch.index := by
  rcases List.append_of_mem member with ⟨front, back, split⟩
  rw [index_of_batches split]
  omega

/-! ### Which batches were requested -/

theorem eq_of_index_eq {left right : Batch} (leftMember : left ∈ run.batches nodes)
    (rightMember : right ∈ run.batches nodes) (same : left.index = right.index) : left = right :=
  List.inj_on_of_nodup_map (nodup_index_batches run nodes) leftMember rightMember same

theorem Reaches.mem_batches (reached : run.Reaches tree nodes course rest state)
    {entry : Batch × Handling} (member : entry ∈ course) : entry.1 ∈ run.batches nodes := by
  rw [reached.split]
  exact List.mem_append_left _ (List.mem_map_of_mem member)

namespace Ran

theorem mem_requests_iff (ran : run.Ran tree nodes course tried rest state)
    {request : LocalizationRequest} :
    request ∈ (run.execute tree nodes).1.requests ↔
      ∃ batch, request = run.request batch ∧
        ((∃ reply candidate, (batch, .translated reply candidate) ∈ course) ∨ batch ∈ tried) := by
  rw [ran.requests, List.mem_append, ran.reached.mem_requests_iff, List.mem_map]
  constructor
  · rintro (⟨batch, reply, candidate, member, same⟩ | ⟨batch, member, same⟩)
    · exact ⟨batch, same, Or.inl ⟨reply, candidate, member⟩⟩
    · exact ⟨batch, same.symm, Or.inr member⟩
  · rintro ⟨batch, same, ⟨reply, candidate, member⟩ | member⟩
    · exact Or.inl ⟨batch, reply, candidate, member, same⟩
    · exact Or.inr ⟨batch, member, same.symm⟩

theorem mem_batches_of_tried (ran : run.Ran tree nodes course tried rest state)
    (asked : batch ∈ tried) : batch ∈ run.batches nodes := by
  rw [ran.reached.split]
  simp [asked]

theorem mem_of_mem_requests (ran : run.Ran tree nodes course tried rest state)
    (member : batch ∈ run.batches nodes)
    (requested : run.request batch ∈ (run.execute tree nodes).1.requests) :
    (∃ reply candidate, (batch, .translated reply candidate) ∈ course) ∨ batch ∈ tried := by
  rcases ran.mem_requests_iff.1 requested with ⟨other, equalRequests, handled⟩
  have otherMember : other ∈ run.batches nodes := by
    rcases handled with ⟨reply, candidate, translated⟩ | asked
    · exact ran.reached.mem_batches translated
    · exact ran.mem_batches_of_tried asked
  have same := congrArg LocalizationRequest.batch equalRequests
  rw [eq_of_index_eq member otherMember same]
  exact handled

theorem mem_requests_of_translated (ran : run.Ran tree nodes course tried rest state)
    {reply : ServiceReply} {candidate : JsonObject}
    (member : (batch, .translated reply candidate) ∈ course) :
    run.request batch ∈ (run.execute tree nodes).1.requests :=
  ran.mem_requests_iff.2 ⟨batch, rfl, Or.inl ⟨reply, candidate, member⟩⟩

theorem mem_requests_of_tried (ran : run.Ran tree nodes course tried rest state)
    (member : batch ∈ tried) : run.request batch ∈ (run.execute tree nodes).1.requests :=
  ran.mem_requests_iff.2 ⟨batch, rfl, Or.inr member⟩

/-- The batches to which a run came are those of its course and the one that it tried. -/
theorem mem_of_le (ran : run.Ran tree nodes course tried rest state)
    (member : batch ∈ run.batches nodes)
    (within : batch.index ≤
      reachedBatches (run.batches nodes).length (run.execute tree nodes).2) :
    (∃ handling, (batch, handling) ∈ course) ∨ batch ∈ tried := by
  have split := ran.reached.split
  rw [split, ← List.append_assoc, List.mem_append, List.mem_append] at member
  rcases member with (handled | asked) | later
  · rcases List.mem_map.1 handled with ⟨⟨_, handling⟩, entryMember, rfl⟩
    exact Or.inl ⟨handling, entryMember⟩
  · exact Or.inr asked
  · rcases List.append_of_mem later with ⟨front, back, rfl⟩
    have whole : run.batches nodes =
        (course.map Prod.fst ++ tried ++ front) ++ batch :: back := by
      rw [split]
      simp
    have index := index_of_batches whole
    rw [ran.count] at within
    simp only [List.length_append, List.length_map] at index
    omega

end Ran

theorem exists_of_mem_requests {request : LocalizationRequest}
    (requested : request ∈ (run.execute tree nodes).1.requests) :
    ∃ batch ∈ run.batches nodes, request = run.request batch := by
  rcases ran_or_unprepared run tree nodes with ⟨course, tried, rest, state, ran⟩ | ⟨-, none, -⟩
  · rcases ran.mem_requests_iff.1 requested with ⟨batch, same, ⟨_, _, translated⟩ | asked⟩
    · exact ⟨batch, ran.reached.mem_batches translated, same⟩
    · exact ⟨batch, ran.mem_batches_of_tried asked, same⟩
  · simp [none] at requested

/-! ### Saved batches that match -/

/-- Whether the file of a batch holds a node map with the keys of the batch in their order. -/
def Matches (run : LocalizationRun) (tree : FileTree) (batch : Batch) : Prop :=
  ∃ content saved, tree.content? (run.dirs.batchFile batch.index) = some content ∧
    Artifact.nodesIn? content = some saved ∧ saved.keys = batch.nodes.keys

/-- A batch that could be resumed from the start can be resumed as long as nothing was saved for
it. -/
theorem savedBatch?_of_saves {after : FileTree} {nodesThere : NodeMap}
    (found : run.savedBatch? tree batch = some nodesThere)
    (spared : run.service.Spares
      ((run.dirs.batchFile batch.index).target tree.workingDirectory))
    (keeps : run.service.KeepsDirectories)
    (unsaved : ∀ entry ∈ course, entry.1.index ≠ batch.index)
    (went : Saves run.service tree (run.saves nodes course) after) :
    run.savedBatch? after batch = some nodesThere := by
  have unseparated := (run.dirs.isArtifact_batchFile batch.index).unseparated
  rcases savedBatch?_eq_some_iff.1 found with ⟨resumes, keys, content, shown, held⟩
  rcases (look_eq_file_iff unseparated).1 shown with ⟨place, resolved, standing⟩
  have kept := went.keptAt spared fun save member =>
    (target_ne_of_mem_saves (fun entry entryMember same =>
      absurd same (unsaved entry entryMember)) member).1
  rw [← resolve_eq_ok resolved] at kept
  refine savedBatch?_eq_some_iff.2 ⟨resumes, keys, content, ?_, held⟩
  refine (look_eq_file_iff unseparated).2 ⟨place, ?_, kept.stays _ standing⟩
  exact resolve_of_directoriesStand (went.directoriesStand keeps) resolved

/-- A batch that could be resumed from the start is resumed. -/
theorem Course.resumed_of_savedBatch? {nodesThere : NodeMap} {handling : Handling}
    (saved : Artifact.saveJson tree run.dirs.pendingFile nodes.withoutSources.toJson =
      (prepared, .ok ()))
    (taken : run.Course total (run.opening prepared nodes) course last)
    (distinct : (course.map fun entry => entry.1.index).Nodup)
    (found : run.savedBatch? tree batch = some nodesThere)
    (spared : run.service.Spares
      ((run.dirs.batchFile batch.index).target tree.workingDirectory))
    (keeps : run.service.KeepsDirectories) (member : (batch, handling) ∈ course) :
    handling = .resumed nodesThere := by
  induction taken with
  | start => simp at member
  | @next front _ _ _ _ earlier passed unseen handled ih =>
    rw [List.map_append, List.nodup_append] at distinct
    rcases distinct with ⟨distinctFront, -, different⟩
    rcases List.mem_append.1 member with older | latest
    · exact ih distinctFront older
    · obtain ⟨rfl, rfl⟩ := Prod.mk.inj (List.mem_singleton.1 latest)
      have unsaved : ∀ entry ∈ front, entry.1.index ≠ batch.index := fun entry entryMember =>
        different _ (List.mem_map_of_mem entryMember) _ (List.mem_singleton_self _)
      have foundThere := savedBatch?_of_saves found spared keeps unsaved (earlier.saves saved)
      cases handled with
      | resumed foundBefore =>
        rw [foundThere, Option.some.injEq] at foundBefore
        rw [foundBefore]
      | translated absent answered read savedThere => simp [foundThere] at absent

theorem Ran.exists_resumed (ran : run.Ran tree nodes course tried rest state)
    (member : batch ∈ run.batches nodes)
    (reported : ReportsResumed (run.batches nodes).length batch.index (run.execute tree nodes).1) :
    ∃ saved, (batch, .resumed saved) ∈ course := by
  rcases ran.reached.taken with ⟨prepared, -, taken⟩
  rw [ran.reports, taken.reportsResumed_iff] at reported
  rcases reported with opened | ⟨⟨other, handling⟩, entryMember, same, saved, rfl⟩
  · simp [ReportsResumed, opening, RunState.report, RunState.register] at opened
  · rw [← eq_of_index_eq (ran.reached.mem_batches entryMember) member same]
    exact ⟨saved, entryMember⟩

theorem Ran.reportsResumed (ran : run.Ran tree nodes course tried rest state) {saved : NodeMap}
    (member : (batch, .resumed saved) ∈ course) :
    ReportsResumed (run.batches nodes).length batch.index (run.execute tree nodes).1 := by
  rcases ran.reached.taken with ⟨prepared, -, taken⟩
  rw [ran.reports, taken.reportsResumed_iff]
  exact Or.inr ⟨_, member, rfl, saved, rfl⟩

theorem Ran.handling_unique (ran : run.Ran tree nodes course tried rest state)
    {left right : Handling} (leftMember : (batch, left) ∈ course)
    (rightMember : (batch, right) ∈ course) : left = right := by
  have same := List.inj_on_of_nodup_map ran.reached.nodup_index leftMember rightMember rfl
  exact (Prod.mk.inj same).2

theorem Ran.not_tried (ran : run.Ran tree nodes course tried rest state) {handling : Handling}
    (handled : (batch, handling) ∈ course) : batch ∉ tried := by
  intro asked
  have later : batch ∈ tried ++ rest := List.mem_append_left _ asked
  exact ran.reached.index_ne_of_mem_rest later _ handled rfl

theorem matches_of_resumed (member : batch ∈ run.batches nodes)
    (spared : run.service.Spares
      ((run.dirs.batchFile batch.index).target tree.workingDirectory))
    (reported : ReportsResumed (run.batches nodes).length batch.index
      (run.execute tree nodes).1) :
    run.options.resume = true ∧ run.Matches tree batch ∧
      run.request batch ∉ (run.execute tree nodes).1.requests := by
  rcases ran_or_unprepared run tree nodes with ⟨course, tried, rest, state, ran⟩ | ⟨silent, -⟩
  · rcases ran.exists_resumed member reported with ⟨nodesThere, handled⟩
    rcases ran.reached.taken with ⟨prepared, saved, taken⟩
    rcases taken.content?_of_resumed saved ran.reached.nodup_index handled spared with
      ⟨resumes, keys, content, standing, held⟩
    refine ⟨resumes, ⟨content, nodesThere, standing, held, keys⟩, ?_⟩
    intro requested
    rcases ran.mem_of_mem_requests member requested with ⟨reply, candidate, translated⟩ | asked
    · have same := ran.handling_unique handled translated
      simp at same
    · exact ran.not_tried handled asked
  · simp [ReportsResumed, silent] at reported

theorem requested_of_unmatched (member : batch ∈ run.batches nodes)
    (spared : run.service.Spares
      ((run.dirs.batchFile batch.index).target tree.workingDirectory))
    (within : batch.index ≤
      reachedBatches (run.batches nodes).length (run.execute tree nodes).2)
    (unmatched : ¬ (run.options.resume = true ∧ run.Matches tree batch)) :
    run.request batch ∈ (run.execute tree nodes).1.requests := by
  rcases ran_or_unprepared run tree nodes with ⟨course, tried, rest, state, ran⟩ | ⟨-, -, nowhere⟩
  · rcases ran.mem_of_le member within with ⟨nodesThere | ⟨reply, candidate⟩, handled⟩ | asked
    · rcases ran.reached.taken with ⟨prepared, saved, taken⟩
      rcases taken.content?_of_resumed saved ran.reached.nodup_index handled spared with
        ⟨resumes, keys, content, standing, held⟩
      exact absurd ⟨resumes, content, nodesThere, standing, held, keys⟩ unmatched
    · exact ran.mem_requests_of_translated handled
    · exact ran.mem_requests_of_tried asked
  · have positive := index_pos member
    omega

theorem resumed_of_savedBatch? (member : batch ∈ run.batches nodes)
    (spared : run.service.Spares
      ((run.dirs.batchFile batch.index).target tree.workingDirectory))
    (within : batch.index ≤
      reachedBatches (run.batches nodes).length (run.execute tree nodes).2)
    (keeps : run.service.KeepsDirectories)
    (matching : (run.savedBatch? tree batch).isSome = true) :
    ReportsResumed (run.batches nodes).length batch.index (run.execute tree nodes).1 := by
  rcases Option.isSome_iff_exists.1 matching with ⟨nodesThere, found⟩
  rcases ran_or_unprepared run tree nodes with ⟨course, tried, rest, state, ran⟩ | ⟨-, -, nowhere⟩
  · rcases ran.mem_of_le member within with ⟨handling, handled⟩ | asked
    · rcases ran.reached.taken with ⟨prepared, saved, taken⟩
      rw [taken.resumed_of_savedBatch? saved ran.reached.nodup_index found spared keeps handled]
        at handled
      exact ran.reportsResumed handled
    · have unsaved := ran.reached.index_ne_of_mem_rest (List.mem_append_left rest asked)
      have foundThere := savedBatch?_of_saves found spared keeps unsaved ran.reached.saves
      rw [ran.absent batch asked] at foundThere
      simp at foundThere
  · have positive := index_pos member
    omega

/-- A batch is resumed only if its file matches, and then it is not requested. Every other batch to
which a run comes is requested. -/
theorem requested_unless_matching (member : batch ∈ run.batches nodes)
    (spared : run.service.Spares
      ((run.dirs.batchFile batch.index).target tree.workingDirectory)) :
    (ReportsResumed (run.batches nodes).length batch.index (run.execute tree nodes).1 →
      run.options.resume = true ∧ run.Matches tree batch ∧
        run.request batch ∉ (run.execute tree nodes).1.requests) ∧
    (batch.index ≤ reachedBatches (run.batches nodes).length (run.execute tree nodes).2 →
      ¬ (run.options.resume = true ∧ run.Matches tree batch) →
        run.request batch ∈ (run.execute tree nodes).1.requests) ∧
    (batch.index ≤ reachedBatches (run.batches nodes).length (run.execute tree nodes).2 →
      run.service.KeepsDirectories → (run.savedBatch? tree batch).isSome = true →
        ReportsResumed (run.batches nodes).length batch.index (run.execute tree nodes).1) := by
  refine ⟨?_, ?_, ?_⟩
  · intro reported
    exact matches_of_resumed member spared reported
  · intro within unmatched
    exact requested_of_unmatched member spared within unmatched
  · intro within keeps matching
    exact resumed_of_savedBatch? member spared within keeps matching

set_option maxRecDepth 100000 in
/-- Of two nodes, the one that is in the stale file is resumed and the other one is requested. -/
theorem requested_unless_matching_of_staleTree : ∃ first second,
    staleRun.batches sampleNodes = [first, second] ∧
      staleRun.Matches staleTree first ∧
      staleRun.request first ∉ (staleRun.execute staleTree sampleNodes).1.requests ∧
      ¬ staleRun.Matches staleTree second ∧
      staleRun.request second ∈ (staleRun.execute staleTree sampleNodes).1.requests := by
  have batches : staleRun.batches sampleNodes =
      [⟨1, .ofList (sampleNodes.entries.take 1)⟩, ⟨2, .ofList (sampleNodes.entries.drop 1)⟩] := by
    decide +kernel
  have failed : failure? (staleRun.execute staleTree sampleNodes).2 = some (.shape 2 .empty) := by
    decide +kernel
  have saved : (staleRun.savedBatch? staleTree
      ⟨1, .ofList (sampleNodes.entries.take 1)⟩).isSome = true := by decide +kernel
  have absent : staleTree.content? (staleRun.dirs.batchFile 2) = none := by decide +kernel
  have spared (index : Nat) : staleRun.service.Spares
      ((staleRun.dirs.batchFile index).target staleTree.workingDirectory) :=
    LocalizationService.spares_ofReplies _ _
  have unmatched : ¬ staleRun.Matches staleTree ⟨2, .ofList (sampleNodes.entries.drop 1)⟩ := by
    rintro ⟨content, saved, standing, -⟩
    simp [absent] at standing
  have firstMember : ⟨1, .ofList (sampleNodes.entries.take 1)⟩ ∈ staleRun.batches sampleNodes := by
    simp [batches]
  have secondMember :
      ⟨2, .ofList (sampleNodes.entries.drop 1)⟩ ∈ staleRun.batches sampleNodes := by
    simp [batches]
  have ofFirst := requested_unless_matching firstMember (spared 1)
  have ofSecond := requested_unless_matching secondMember (spared 2)
  rw [failure?_eq_some_iff.1 failed] at ofFirst ofSecond
  have resumed := ofFirst.2.2 (by decide) (LocalizationService.keepsDirectories_ofReplies _) saved
  have found := ofFirst.1 resumed
  have requested := ofSecond.2.1 (by decide) fun matching => unmatched matching.2
  exact ⟨_, _, batches, found.2.1, found.2.2, unmatched, requested⟩

set_option maxRecDepth 100000 in
/-- A stale file is resumed although its node lacks a field that the node has now. -/
theorem resumed_of_staleTree :
    ReportsResumed 1 1 (staleRun.execute staleTree sampleNode).1 ∧
      (staleRun.execute staleTree sampleNode).1.requests = [] ∧
      Artifact.loadNodes staleTree (staleRun.dirs.batchFile 1) = .ok staleNode ∧
      staleNode.keys = sampleNode.keys ∧ staleNode.shape ≠ sampleNode.shape := by
  have ran : ReportsResumed 1 1 (staleRun.execute staleTree sampleNode).1 ∧
      (staleRun.execute staleTree sampleNode).1.requests = [] := by decide +kernel
  refine ⟨ran.1, ran.2, by decide +kernel, by decide, ?_⟩
  intro same
  have inputs := congrArg (List.map fun entry => entry.2 .inputs) same
  exact absurd inputs (by decide)

end LocalizationRun

end NodeLocale
