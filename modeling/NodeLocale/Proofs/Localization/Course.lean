import NodeLocale.Proofs.Localization.Batches
import NodeLocale.Proofs.Localization.Endings

/-!
# The course of a run

The course of a run lists the batches that it has been through, each with the way in which it was
handled. Between two batches a run looks at the cancel signal twice, and goes on only if neither
look sees it. So a course is what a run has behind it whenever it looks at the signal, fails or
finishes, and all that is to be shown of runs that stop is shown of courses, batch by batch.
-/

namespace NodeLocale

/-- How a batch was handled. -/
inductive Handling
  | resumed (saved : NodeMap)
  | translated (reply : ServiceReply) (candidate : JsonObject)

/-- What is requested for a batch that is handled so. -/
def Handling.requests (run : LocalizationRun) (batch : Batch) :
    Handling → List LocalizationRequest
  | resumed _ => []
  | translated _ _ => [run.request batch]

namespace LocalizationRun

variable (run : LocalizationRun) (total : Nat)

/-- The steps that handle a batch, which are those that do not fail. -/
inductive Handles (batch : Batch) (before : RunState) : Handling → RunState → Prop
  | resumed {saved : NodeMap} (found : run.savedBatch? before.tree batch = some saved) :
      Handles batch before (.resumed saved) (run.afterResuming total batch saved before)
  | translated {reply : ServiceReply} {tokens : TokenUsage} {candidate : JsonObject}
      {tree : FileTree} (absent : run.savedBatch? before.tree batch = none)
      (answered : (run.service before.tree (run.request batch)).2 = .ok reply)
      (counted : before.tokens.recordTold? reply.usage = some tokens)
      (read : ReplyObject.read reply.text = .ok candidate)
      (saved : run.saveBatch (run.afterRequest total batch before).tree batch
        (reconcileBatch batch.nodes candidate) = (tree, .ok ())) :
      Handles batch before (.translated reply candidate)
        (run.afterSaving total batch (reconcileBatch batch.nodes candidate)
          { run.afterReply total batch reply.usage tokens before with tree })

/-- Whether the look behind the last of some batches does not stop a run. -/
def Passes (course : List (Batch × Handling)) (state : RunState) : Prop :=
  ∀ entry ∈ course.getLast?, entry.1.index < total →
    run.cancel (.after entry.1.index) state.events = false

/-- The courses that a run may take from a state. -/
inductive Course (first : RunState) : List (Batch × Handling) → RunState → Prop
  | start : Course first [] first
  | next {course : List (Batch × Handling)} {batch : Batch} {handling : Handling}
      {before after : RunState} (earlier : Course first course before)
      (passed : run.Passes total course before)
      (unseen : run.cancel (.before batch.index) before.events = false)
      (handled : run.Handles total batch before handling after) :
      Course first (course ++ [(batch, handling)]) after

variable {run total}

theorem exists_handles_iff {batch : Batch} {before after : RunState} :
    (∃ handling, run.Handles total batch before handling after) ↔
      BatchStep run total batch before after (.ok ()) := by
  constructor
  · rintro ⟨handling, handled⟩
    cases handled with
    | resumed found => exact .resumed found
    | translated absent answered counted read saved =>
      exact .translated absent answered counted read saved
  · intro step
    cases step with
    | resumed found => exact ⟨_, .resumed found⟩
    | translated absent answered counted read saved =>
      exact ⟨_, .translated absent answered counted read saved⟩

theorem Handles.processBatch {batch : Batch} {handling : Handling} {before after : RunState}
    (handled : run.Handles total batch before handling after) :
    run.processBatch total batch before = (after, .ok ()) :=
  batchStep_iff.1 (exists_handles_iff.1 ⟨handling, handled⟩)

/-! ### Courses and the loop over the batches -/

variable {first before last : RunState} {course : List (Batch × Handling)}

/-- What a run does behind a course: the look behind its last batch and the rest of the batches. -/
def proceed (run : LocalizationRun) (total : Nat) (course : List (Batch × Handling))
    (rest : List Batch) (state : RunState) : RunState × Except TranslateError (Option Nat) :=
  match course.getLast? with
  | none => run.processBatches total rest state
  | some entry =>
    if run.cancel (.after entry.1.index) state.events && entry.1.index < total then
      (state, .ok (some entry.1.index))
    else run.processBatches total rest state

theorem proceed_of_passes (passed : run.Passes total course before) (rest : List Batch) :
    run.proceed total course rest before = run.processBatches total rest before := by
  rw [proceed]
  split
  · rfl
  · rename_i entry found
    have unseen := passed entry found
    rw [if_neg]
    simp only [Bool.and_eq_true, decide_eq_true_eq, not_and]
    intro seen more
    simp [unseen more] at seen

/-- Going through the batches takes up behind every course. -/
theorem Course.processBatches_append (taken : run.Course total first course last)
    (rest : List Batch) :
    run.processBatches total (course.map Prod.fst ++ rest) first =
      run.proceed total course rest last := by
  induction taken generalizing rest with
  | start => rfl
  | next earlier passed unseen handled ih =>
    rw [List.map_append, List.append_assoc, ih, proceed_of_passes passed]
    simp only [List.map_cons, List.map_nil, List.singleton_append]
    rw [processBatches, unseen, handled.processBatch, proceed, List.getLast?_concat]
    rfl

/-! ### Courses of whole runs -/

variable {tree : FileTree} {nodes : NodeMap} {rest : List Batch}

theorem map_index_batches (run : LocalizationRun) (nodes : NodeMap) :
    (run.batches nodes).map Batch.index = List.range' 1 (run.batches nodes).length :=
  Batch.map_index_partition run.options.batchSize nodes.withoutSources

theorem index_of_batches {front : List Batch} {batch : Batch}
    (split : run.batches nodes = front ++ batch :: rest) : batch.index = front.length + 1 := by
  have within : front.length < (run.batches nodes).length := by simp [split]
  have found : (List.range' 1 (run.batches nodes).length)[front.length]? = some batch.index := by
    rw [← map_index_batches, split]
    simp
  rw [List.getElem?_range' within, Option.some.injEq] at found
  omega

variable (run) in
/-- Whether a run comes behind a course to a state, with some batches left. -/
structure Reaches (tree : FileTree) (nodes : NodeMap) (course : List (Batch × Handling))
    (rest : List Batch) (state : RunState) : Prop where
  split : run.batches nodes = course.map Prod.fst ++ rest
  taken : ∃ prepared,
    Artifact.saveJson tree run.dirs.pendingFile nodes.withoutSources.toJson = (prepared, .ok ()) ∧
      run.Course (run.batches nodes).length (run.opening prepared nodes) course state

variable (run) in
/-- How a run may end, in terms of its course. -/
inductive CourseEnd (tree : FileTree) (nodes : NodeMap) :
    RunState → Except TranslateError RunOutcome → Prop
  | unprepared {after : FileTree} {error : ArtifactError}
      (unsaved : Artifact.saveJson tree run.dirs.pendingFile nodes.withoutSources.toJson =
        (after, .error error)) :
      CourseEnd tree nodes { tree := after } (.error (.prepare error.message))
  | cancelled {course : List (Batch × Handling)} {rest : List Batch} {last : RunState}
      (reached : run.Reaches tree nodes course rest last) (more : rest ≠ []) :
      CourseEnd tree nodes last (.ok (.cancelled course.length (run.batches nodes).length))
  | failed {course : List (Batch × Handling)} {batch : Batch} {rest : List Batch}
      {before last : RunState} {error : TranslateError}
      (reached : run.Reaches tree nodes course (batch :: rest) before)
      (step : BatchStep run (run.batches nodes).length batch before last (.error error)) :
      CourseEnd tree nodes last (.error error)
  | finished {course : List (Batch × Handling)} {last after : RunState}
      {result : Except TranslateError RunOutcome}
      (reached : run.Reaches tree nodes course [] last)
      (ended : run.finish nodes.withoutSources (run.batches nodes).length last =
        (after, result)) :
      CourseEnd tree nodes after result

variable (run) in
/-- What a run makes of the way in which it went through its batches. -/
def conclude (nodes : NodeMap) :
    RunState × Except TranslateError (Option Nat) → RunState × Except TranslateError RunOutcome
  | (state, .error error) => (state, .error error)
  | (state, .ok (some completed)) =>
    (state, .ok (.cancelled completed (run.batches nodes).length))
  | (state, .ok none) => run.finish nodes.withoutSources (run.batches nodes).length state

namespace Reaches

theorem index_of_getLast? {entry : Batch × Handling}
    (reached : run.Reaches tree nodes course rest last) (found : entry ∈ course.getLast?) :
    entry.1.index = course.length := by
  have split := reached.split
  rcases List.getLast?_eq_some_iff.1 found with ⟨front, rfl⟩
  rw [List.map_append, List.append_assoc, List.map_cons, List.map_nil,
    List.singleton_append] at split
  rw [index_of_batches split]
  simp

theorem next {batch : Batch} {handling : Handling} {after : RunState}
    (reached : run.Reaches tree nodes course (batch :: rest) last)
    (passed : run.Passes (run.batches nodes).length course last)
    (unseen : run.cancel (.before batch.index) last.events = false)
    (handled : run.Handles (run.batches nodes).length batch last handling after) :
    run.Reaches tree nodes (course ++ [(batch, handling)]) rest after := by
  rcases reached with ⟨split, prepared, saved, taken⟩
  refine ⟨?_, prepared, saved, taken.next passed unseen handled⟩
  rw [split, List.map_append, List.append_assoc]
  rfl

/-- A run does behind a course what is left of it. -/
theorem execute (reached : run.Reaches tree nodes course rest last) :
    run.execute tree nodes =
      run.conclude nodes (run.proceed (run.batches nodes).length course rest last) := by
  rcases reached with ⟨split, prepared, saved, taken⟩
  rw [execute_of_saved run saved, ← taken.processBatches_append, ← split]
  rfl

theorem length_batches (reached : run.Reaches tree nodes course rest last) :
    (run.batches nodes).length = course.length + rest.length := by
  rw [reached.split, List.length_append, List.length_map]

theorem passes_of_nil (reached : run.Reaches tree nodes course [] last) :
    run.Passes (run.batches nodes).length course last := by
  intro entry found more
  have length := reached.length_batches
  rw [reached.index_of_getLast? found, length, List.length_nil] at more
  omega

/-- A run finishes behind all of its batches. -/
theorem execute_of_nil (reached : run.Reaches tree nodes course [] last) :
    run.execute tree nodes =
      run.finish nodes.withoutSources (run.batches nodes).length last := by
  rw [reached.execute, proceed_of_passes reached.passes_of_nil]
  rfl

theorem execute_of_seen {batch : Batch}
    (reached : run.Reaches tree nodes course (batch :: rest) last)
    (passed : run.Passes (run.batches nodes).length course last)
    (seen : run.cancel (.before batch.index) last.events = true) :
    run.execute tree nodes =
      (last, .ok (.cancelled course.length (run.batches nodes).length)) := by
  rw [reached.execute, proceed_of_passes passed, processBatches, seen,
    index_of_batches reached.split]
  simp [conclude]

theorem execute_of_seen_after {entry : Batch × Handling}
    (reached : run.Reaches tree nodes course rest last) (found : entry ∈ course.getLast?)
    (more : rest ≠ []) (seen : run.cancel (.after entry.1.index) last.events = true) :
    run.execute tree nodes =
      (last, .ok (.cancelled course.length (run.batches nodes).length)) := by
  have index := reached.index_of_getLast? found
  have within : course.length < (run.batches nodes).length := by
    have positive := List.length_pos_iff.2 more
    have length := reached.length_batches
    omega
  rw [Option.mem_def] at found
  rw [index] at seen
  rw [reached.execute, proceed, found]
  simp [index, seen, within, conclude]

theorem execute_of_not_passes {batch : Batch}
    (reached : run.Reaches tree nodes course (batch :: rest) last)
    (stops : ¬run.Passes (run.batches nodes).length course last) :
    run.execute tree nodes =
      (last, .ok (.cancelled course.length (run.batches nodes).length)) := by
  simp only [Passes, Classical.not_forall] at stops
  rcases stops with ⟨entry, found, more, seen⟩
  rw [Bool.not_eq_false] at seen
  exact reached.execute_of_seen_after found (by simp) seen

theorem execute_of_step {batch : Batch} {after : RunState} {error : TranslateError}
    (reached : run.Reaches tree nodes course (batch :: rest) last)
    (passed : run.Passes (run.batches nodes).length course last)
    (unseen : run.cancel (.before batch.index) last.events = false)
    (step : BatchStep run (run.batches nodes).length batch last after (.error error)) :
    run.execute tree nodes = (after, .error error) := by
  rw [reached.execute, proceed_of_passes passed, processBatches, unseen, batchStep_iff.1 step]
  rfl

/-- A run ends somewhere behind each of its courses. -/
theorem end_execute (reached : run.Reaches tree nodes course rest last) :
    CourseEnd run tree nodes (run.execute tree nodes).1 (run.execute tree nodes).2 := by
  induction rest generalizing course last with
  | nil =>
    rw [reached.execute_of_nil]
    exact .finished reached rfl
  | cons batch rest ih =>
    by_cases passed : run.Passes (run.batches nodes).length course last
    · cases seen : run.cancel (.before batch.index) last.events with
      | true =>
        rw [reached.execute_of_seen passed seen]
        exact .cancelled reached (by simp)
      | false =>
        rcases ended : run.processBatch (run.batches nodes).length batch last
          with ⟨after, error | _⟩ <;> rw [← batchStep_iff] at ended
        · rw [reached.execute_of_step passed seen ended]
          exact .failed reached ended
        · rcases exists_handles_iff.2 ended with ⟨handling, handled⟩
          exact ih (reached.next passed seen handled)
    · rw [reached.execute_of_not_passes passed]
      exact .cancelled reached (by simp)

end Reaches

theorem courseEnd_execute (run : LocalizationRun) (tree : FileTree) (nodes : NodeMap) :
    CourseEnd run tree nodes (run.execute tree nodes).1 (run.execute tree nodes).2 := by
  rcases saved : Artifact.saveJson tree run.dirs.pendingFile nodes.withoutSources.toJson
    with ⟨prepared, error | _⟩
  · rw [execute_of_unsaved run saved]
    exact .unprepared saved
  · have opened : run.Reaches tree nodes [] (run.batches nodes) (run.opening prepared nodes) :=
      ⟨rfl, prepared, saved, .start⟩
    exact opened.end_execute

end LocalizationRun

end NodeLocale
