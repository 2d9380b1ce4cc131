import NodeLocale.Proofs.Localization.Failure

/-!
# Cancelling a run

A run looks at the cancel signal before each of its batches and after each that it has handled. A
look that sees the signal ends the run, except the one behind the last batch, where nothing is left
to be cancelled. A call of the service is never broken off: what becomes of the run is decided by
the reply first and by the signal after that. Only a reply whose tokens cannot be counted breaks the
run off before the signal is looked at.

The signal may depend on where the run looks and on what happened so far. That it is given before
the run, between two looks or during a call means that the next look sees it.
-/

namespace NodeLocale

open FileTree

/-- The number of batches that are behind a run that looks at the signal. -/
def Checkpoint.finished : Checkpoint → Nat
  | before batch => batch - 1
  | after batch => batch

namespace LocalizationRun

variable {run : LocalizationRun} {nodes : NodeMap} {tree : FileTree} {batch : Batch}
  {course : List (Batch × Handling)} {rest : List Batch} {state last : RunState} {total : Nat}
  {checkpoint : Checkpoint}

/-- Where a run looks at the cancel signal, and in which state. -/
inductive Looks (run : LocalizationRun) (tree : FileTree) (nodes : NodeMap) :
    Checkpoint → RunState → Prop
  | before {course : List (Batch × Handling)} {batch : Batch} {rest : List Batch}
      {state : RunState} (reached : run.Reaches tree nodes course (batch :: rest) state)
      (passed : run.Passes (run.batches nodes).length course state) :
      Looks run tree nodes (.before batch.index) state
  | after {course : List (Batch × Handling)} {entry : Batch × Handling} {rest : List Batch}
      {state : RunState} (reached : run.Reaches tree nodes course rest state)
      (found : entry ∈ course.getLast?) : Looks run tree nodes (.after entry.1.index) state

/-- Where a run calls its service for a batch. -/
inductive Calls (run : LocalizationRun) (tree : FileTree) (nodes : NodeMap) (batch : Batch)
    (state : RunState) : Prop
  | intro {course : List (Batch × Handling)} {rest : List Batch}
      (reached : run.Reaches tree nodes course (batch :: rest) state)
      (passed : run.Passes (run.batches nodes).length course state)
      (unseen : run.cancel (.before batch.index) state.events = false)
      (absent : run.savedBatch? state.tree batch = none)

/-! ### Looks that see the signal -/

/-- A look that sees the signal ends the run where it is. -/
theorem Looks.execute_of_seen (looked : run.Looks tree nodes checkpoint state)
    (seen : run.cancel checkpoint state.events = true)
    (notLast : checkpoint ≠ .after (run.batches nodes).length) :
    run.execute tree nodes =
      (state, .ok (.cancelled checkpoint.finished (run.batches nodes).length)) := by
  cases looked with
  | before reached passed =>
    rw [reached.execute_of_seen passed seen, Checkpoint.finished, index_of_batches reached.split,
      List.length_map, Nat.add_sub_cancel]
  | @after course entry rest _ reached found =>
    have index := reached.index_of_getLast? found
    have more : rest ≠ [] := by
      rintro rfl
      apply notLast
      rw [index, reached.length_batches, List.length_nil, Nat.add_zero]
    rw [reached.execute_of_seen_after found more seen, Checkpoint.finished, index]

theorem Looks.requests_execute (looked : run.Looks tree nodes checkpoint state)
    (seen : run.cancel checkpoint state.events = true) :
    (run.execute tree nodes).1.requests = state.requests := by
  by_cases atEnd : checkpoint = .after (run.batches nodes).length
  · cases looked with
    | before reached passed => simp at atEnd
    | @after course entry rest _ reached found =>
      have index := reached.index_of_getLast? found
      have length := reached.length_batches
      rw [Checkpoint.after.injEq] at atEnd
      obtain rfl : rest = [] := List.length_eq_zero_iff.1 (by omega)
      rw [reached.execute_of_nil, requests_finish]
  · rw [looked.execute_of_seen seen atEnd]

/-! ### Runs that are cancelled -/

theorem reaches_of_cancelled {finished total : Nat}
    (cancelled : (run.execute tree nodes).2 = .ok (.cancelled finished total)) :
    total = (run.batches nodes).length ∧ ∃ course rest, rest ≠ [] ∧ course.length = finished ∧
      run.Reaches tree nodes course rest (run.execute tree nodes).1 := by
  have ends := courseEnd_execute run tree nodes
  rw [cancelled] at ends
  generalize (run.execute tree nodes).1 = after at ends ⊢
  cases ends with
  | cancelled reached more => exact ⟨rfl, _, _, more, rfl, reached⟩
  | finished reached ended =>
    rcases saved_of_finish_eq_ok ended with ⟨_, _, _, outcome⟩
    simp at outcome

theorem Reaches.le_length_of_mem_requests (reached : run.Reaches tree nodes course rest last)
    {request : LocalizationRequest} (member : request ∈ last.requests) :
    request.batch ≤ course.length := by
  rcases reached.mem_requests_iff.1 member with ⟨batch, reply, candidate, entryMember, rfl⟩
  rcases List.append_of_mem entryMember with ⟨front, back, rfl⟩
  have split := reached.split
  rw [List.map_append, List.map_cons, List.append_assoc, List.cons_append] at split
  have index : batch.index = front.length + 1 := by
    rw [index_of_batches split, List.length_map]
  change batch.index ≤ _
  rw [List.length_append, List.length_cons]
  omega

/-- A batch that was handled has its file. -/
theorem Progress.content?_of_mem {after : FileTree} {entry : Batch × Handling}
    (progress : run.Progress tree nodes course after) (member : entry ∈ course)
    (spared : run.service.Spares
      ((run.dirs.batchFile entry.1.index).target tree.workingDirectory)) :
    ∃ content, after.content? (run.dirs.batchFile entry.1.index) = some content := by
  rcases entry with ⟨batch, saved | ⟨reply, candidate⟩⟩
  · rcases progress.resumed batch saved member spared with ⟨content, -, -, standing⟩
    exact ⟨content, standing⟩
  · exact ⟨_, progress.translated batch reply candidate member spared⟩

/-! ### Signals that come during a call -/

/-- The run that nobody cancels. -/
def uncancelled (run : LocalizationRun) : LocalizationRun := { run with cancel := .never }

theorem Handles.uncancelled {handling : Handling}
    (handled : run.Handles total batch state handling last) :
    run.uncancelled.Handles total batch state handling last := by
  have same : run.uncancelled.savedBatch? state.tree batch = _ :=
    savedBatch?_changed state.tree batch
  cases handled with
  | resumed found => exact .resumed (same.trans found)
  | translated absent answered counted read saved =>
    exact .translated (same.trans absent) answered counted read saved

theorem Reaches.uncancelled (reached : run.Reaches tree nodes course rest last) :
    run.uncancelled.Reaches tree nodes course rest last := by
  rcases reached with ⟨split, prepared, saved, taken⟩
  refine ⟨split, prepared, saved, ?_⟩
  clear split
  induction taken with
  | start => exact .start
  | next earlier passed unseen handled ih =>
    exact .next ih (fun _ _ _ => rfl) rfl handled.uncancelled

theorem batches_uncancelled : run.uncancelled.batches nodes = run.batches nodes := rfl

theorem conclude_uncancelled : run.uncancelled.conclude nodes = run.conclude nodes := by
  funext ended
  rcases ended with ⟨state, error | finished | _⟩
  · rfl
  · rfl
  · rfl

theorem processBatches_uncancelled (unseen : run.cancel (.before batch.index) state.events = false)
    (last : ¬ batch.index < total) :
    run.uncancelled.processBatches total [batch] state =
      run.processBatches total [batch] state := by
  have never : run.uncancelled.cancel (.before batch.index) state.events = false := rfl
  have sameStep : run.uncancelled.processBatch total batch state = _ := processBatch_changed state
  rw [processBatches, processBatches, sameStep, unseen, never]
  simp only [decide_eq_false last, Bool.and_false]
  rfl

/-- A run whose last batch is being requested goes on as if nobody cancelled it. -/
theorem Calls.execute_uncancelled (called : run.Calls tree nodes batch state)
    (last : batch.index = (run.batches nodes).length) :
    run.uncancelled.execute tree nodes = run.execute tree nodes := by
  rcases called with ⟨reached, passed, unseen, -⟩
  rename_i course rest
  have index := index_of_batches reached.split
  have length := reached.length_batches
  rw [List.length_map] at index
  rw [List.length_cons] at length
  obtain rfl : rest = [] := List.length_eq_zero_iff.1 (by omega)
  have passedToo : run.uncancelled.Passes (run.batches nodes).length course state :=
    fun _ _ _ => rfl
  rw [reached.uncancelled.execute, reached.execute, batches_uncancelled, conclude_uncancelled,
    proceed_of_passes passedToo, proceed_of_passes passed,
    processBatches_uncancelled unseen (by omega)]

/-! ### What becomes of a call -/

/-- A reply whose tokens cannot be counted makes a run panic. -/
theorem Calls.execute_of_uncountable (called : run.Calls tree nodes batch state)
    (uncountable : run.Uncountable state batch) :
    (run.execute tree nodes).2 = .error (.panicked batch.index) := by
  rcases called with ⟨reached, passed, unseen, absent⟩
  rcases uncountable with ⟨reply, answered, uncounted⟩
  rw [reached.execute_of_step passed unseen (.panicked absent answered uncounted)]

/-- A run that does not panic counts what every reply tells. -/
theorem Calls.exists_recordTold? {reply : ServiceReply} (called : run.Calls tree nodes batch state)
    (calm : ¬run.Panics tree nodes)
    (answered : (run.service state.tree (run.request batch)).2 = .ok reply) :
    ∃ tokens, state.tokens.recordTold? reply.usage = some tokens := by
  apply Option.ne_none_iff_exists'.1
  intro uncounted
  exact calm ⟨_, called.execute_of_uncountable ⟨reply, answered, uncounted⟩⟩

theorem Calls.execute_of_unanswered {error : TranslateError}
    (called : run.Calls tree nodes batch state) (calm : ¬run.Panics tree nodes)
    (unanswered : run.Unanswered state.tree batch error) :
    (run.execute tree nodes).2 = .error error := by
  cases unanswered with
  | service answered =>
    rcases called with ⟨reached, passed, unseen, absent⟩
    rw [reached.execute_of_step passed unseen (.serviceFailed absent answered)]
  | shape answered unread =>
    rcases called.exists_recordTold? calm answered with ⟨tokens, counted⟩
    rcases called with ⟨reached, passed, unseen, absent⟩
    rw [reached.execute_of_step passed unseen (.replyUnusable absent answered counted unread)]

/-- What becomes of a batch for which the service replies an object. -/
theorem Calls.saved {reply : ServiceReply} {candidate : JsonObject}
    (called : run.Calls tree nodes batch state) (calm : ¬run.Panics tree nodes)
    (answered : (run.service state.tree (run.request batch)).2 = .ok reply)
    (read : ReplyObject.read reply.text = .ok candidate) :
    (∃ reason, (run.execute tree nodes).2 = .error (.persist batch.index reason)) ∨
      ∃ course rest later, run.Reaches tree nodes
        (course ++ [(batch, .translated reply candidate)]) rest later := by
  rcases called.exists_recordTold? calm answered with ⟨tokens, counted⟩
  rcases called with ⟨reached, passed, unseen, absent⟩
  rcases kept : run.saveBatch (run.afterRequest (run.batches nodes).length batch state).tree batch
    (reconcileBatch batch.nodes candidate) with ⟨after, error | _⟩
  · left
    rw [reached.execute_of_step passed unseen (.notSaved absent answered counted read kept)]
    exact ⟨_, rfl⟩
  · right
    exact ⟨_, _, _, reached.next passed unseen (.translated absent answered counted read kept)⟩

theorem Reaches.completed_or_ofSaving (reached : run.Reaches tree nodes course [] last) :
    (∃ result, (run.execute tree nodes).2 = .ok (.completed result)) ∨
      ∃ error, (run.execute tree nodes).2 = .error error ∧ error.ofSaving = true := by
  rw [reached.execute_of_nil]
  rcases ended : run.finish nodes.withoutSources (run.batches nodes).length last
    with ⟨after, error | outcome⟩
  · exact Or.inr ⟨error, rfl, ofSaving_of_finish ended⟩
  · rcases saved_of_finish_eq_ok ended with ⟨_, _, _, rfl⟩
    exact Or.inl ⟨_, rfl⟩

/-- Whether a run stops at the first look that sees the signal, with its first batches handled and
nothing else done. -/
structure HeedsSignal (run : LocalizationRun) (tree : FileTree) (nodes : NodeMap) : Prop where
  /-- Once a look has seen the signal, the service is not called any more. -/
  quiet : ∀ checkpoint state, run.Looks tree nodes checkpoint state →
    run.cancel checkpoint state.events = true →
      (run.execute tree nodes).1.requests = state.requests
  stopped : ∀ checkpoint state, run.Looks tree nodes checkpoint state →
    run.cancel checkpoint state.events = true →
      checkpoint ≠ .after (run.batches nodes).length →
        run.execute tree nodes =
          (state, .ok (.cancelled checkpoint.finished (run.batches nodes).length))
  /-- A cancelled run has handled its first batches and done nothing else. -/
  cancelled : ∀ finished total,
    (run.execute tree nodes).2 = .ok (.cancelled finished total) →
      total = (run.batches nodes).length ∧ finished < total ∧
      ∃ course rest, course.length = finished ∧
        run.Reaches tree nodes course rest (run.execute tree nodes).1 ∧
        (∀ request ∈ (run.execute tree nodes).1.requests, request.batch ≤ finished) ∧
        (∀ entry ∈ course, run.service.Spares
          ((run.dirs.batchFile entry.1.index).target tree.workingDirectory) →
            ∃ content, (run.execute tree nodes).1.tree.content?
              (run.dirs.batchFile entry.1.index) = some content) ∧
        run.Progress tree nodes course (run.execute tree nodes).1.tree

/-- What a run keeps to, whatever its cancel signal does. -/
structure StopsCleanly (run : LocalizationRun) (tree : FileTree) (nodes : NodeMap) : Prop extends
    run.HeedsSignal tree nodes where
  /-- A call that fails, or gives nothing usable, decides the run. -/
  unanswered : ∀ batch state error, run.Calls tree nodes batch state →
    run.Unanswered state.tree batch error → (run.execute tree nodes).2 = .error error
  /-- The batch in flight is saved before the signal counts. -/
  answered : ∀ batch state reply candidate, run.Calls tree nodes batch state →
    (run.service state.tree (run.request batch)).2 = .ok reply →
      ReplyObject.read reply.text = .ok candidate →
        batch.index < (run.batches nodes).length →
          (∀ later, run.Looks tree nodes (.after batch.index) later →
            run.cancel (.after batch.index) later.events = true) →
            (run.execute tree nodes).2 =
              .ok (.cancelled batch.index (run.batches nodes).length) ∨
            (∃ reason, (run.execute tree nodes).2 = .error (.persist batch.index reason)) ∧
              ¬ (CanSave run nodes tree ∧ run.KeepsWritable)
  /-- When the last batch is in flight, the signal comes too late. -/
  lastAnswered : ∀ batch state reply candidate, run.Calls tree nodes batch state →
    (run.service state.tree (run.request batch)).2 = .ok reply →
      ReplyObject.read reply.text = .ok candidate →
        batch.index = (run.batches nodes).length →
          run.execute tree nodes = run.uncancelled.execute tree nodes ∧
          ((∃ result, (run.execute tree nodes).2 = .ok (.completed result)) ∨
            (∃ error, (run.execute tree nodes).2 = .error error ∧ error.ofSaving = true) ∧
              ¬ (CanSave run nodes tree ∧ run.KeepsWritable))

theorem not_canSave_of_failed {error : TranslateError}
    (failed : (run.execute tree nodes).2 = .error error) (saving : error.ofSaving = true) :
    ¬ (CanSave run nodes tree ∧ run.KeepsWritable) := by
  rintro ⟨possible, keeps⟩
  rw [ofSaving_eq_false_of_canSave possible keeps failed] at saving
  simp at saving

theorem heedsSignal_execute (run : LocalizationRun) (tree : FileTree) (nodes : NodeMap) :
    run.HeedsSignal tree nodes := by
  constructor
  case quiet =>
    intro checkpoint state looked seen
    exact looked.requests_execute seen
  case stopped =>
    intro checkpoint state looked seen notLast
    exact looked.execute_of_seen seen notLast
  case cancelled =>
    intro finished total cancelled
    rcases reaches_of_cancelled cancelled with ⟨rfl, course, rest, more, rfl, reached⟩
    have within := List.length_pos_iff.2 more
    have length := reached.length_batches
    have progress := reached.progress reached.saves
    refine ⟨rfl, by omega, course, rest, rfl, reached, ?_, ?_, progress⟩
    · intro request member
      exact reached.le_length_of_mem_requests member
    · intro entry member spared
      exact progress.content?_of_mem member spared

theorem stopsCleanly_of_calm (calm : ¬run.Panics tree nodes) : run.StopsCleanly tree nodes := by
  refine ⟨heedsSignal_execute run tree nodes, ?unanswered, ?answered, ?lastAnswered⟩
  case unanswered =>
    intro batch state error called unanswered
    exact called.execute_of_unanswered calm unanswered
  case answered =>
    intro batch state reply candidate called answered read inner flagged
    rcases called.saved calm answered read with ⟨reason, failed⟩ | ⟨course, rest, later, reached⟩
    · exact Or.inr ⟨⟨reason, failed⟩, not_canSave_of_failed failed rfl⟩
    · left
      have looked : run.Looks tree nodes (.after batch.index) later :=
        .after reached List.getLast?_concat
      have notLast : Checkpoint.after batch.index ≠ .after (run.batches nodes).length := by
        rw [ne_eq, Checkpoint.after.injEq]
        omega
      rw [looked.execute_of_seen (flagged later looked) notLast]
      rfl
  case lastAnswered =>
    intro batch state reply candidate called answered read last
    refine ⟨(called.execute_uncancelled last).symm, ?_⟩
    rcases called.saved calm answered read with ⟨reason, failed⟩ | ⟨course, rest, later, reached⟩
    · exact Or.inr ⟨⟨_, failed, rfl⟩, not_canSave_of_failed failed rfl⟩
    · have index : batch.index = _ := reached.index_of_getLast? List.getLast?_concat
      have length := reached.length_batches
      obtain rfl : rest = [] := List.length_eq_zero_iff.1 (by omega)
      rcases reached.completed_or_ofSaving with completed | ⟨error, failed, saving⟩
      · exact Or.inl completed
      · exact Or.inr ⟨⟨error, failed, saving⟩, not_canSave_of_failed failed saving⟩

/-! ### Runs that panic -/

/-- A run that panics calls its service for a batch of which it cannot count the tokens. -/
theorem exists_calls_of_panics (panics : run.Panics tree nodes) :
    ∃ batch state, run.Calls tree nodes batch state ∧ run.Uncountable state batch := by
  rcases panics with ⟨index, panicked⟩
  have ends := courseEnd_execute run tree nodes
  rw [panicked] at ends
  generalize (run.execute tree nodes).1 = after at ends
  cases ends with
  | @failed course batch rest before _ _ reached step =>
    have passed : run.Passes (run.batches nodes).length course before := by
      by_contra stops
      rw [reached.execute_of_not_passes stops] at panicked
      simp at panicked
    have unseen : run.cancel (.before batch.index) before.events = false := by
      rw [Bool.eq_false_iff]
      intro seen
      rw [reached.execute_of_seen passed seen] at panicked
      simp at panicked
    cases step with
    | panicked absent answered uncounted =>
      exact ⟨_, _, .intro reached passed unseen absent, _, answered, uncounted⟩
  | finished reached ended =>
    rcases finish_eq_error ended with ⟨reason, other⟩
    simp at other

/-- A run panics at a batch that is not yet behind it. -/
theorem Reaches.length_lt_of_panicked {index : Nat}
    (reached : run.Reaches tree nodes course rest last)
    (panicked : (run.execute tree nodes).2 = .error (.panicked index)) :
    course.length < index := by
  have ends := batchesEnd_processBatches rest
    (.none last : Processed run (run.batches nodes).length [] _ _)
  rw [List.nil_append] at ends
  rw [reached.execute, proceed] at panicked
  have went : (run.conclude nodes
      (run.processBatches (run.batches nodes).length rest last)).2 = .error (.panicked index) := by
    split at panicked
    · exact panicked
    · split at panicked
      · simp [conclude] at panicked
      · exact panicked
  rcases ended : run.processBatches (run.batches nodes).length rest last
    with ⟨after, error | _ | stoppedAt⟩
  all_goals rw [ended] at went ends
  · obtain rfl := Except.error.inj went
    cases ends with
    | failed split processed step =>
      have front := reached.split
      rw [split, ← List.append_assoc] at front
      have there := Option.some.inj (requested_of_step step).2.2
      rw [there, index_of_batches front, List.length_append, List.length_map]
      omega
  · rcases finish_eq_error (Prod.ext rfl went) with ⟨reason, other⟩
    simp at other
  · simp [conclude] at went

/-- The look behind a batch at which a run panics is never reached. -/
theorem not_looks_after_of_panicked {index : Nat}
    (panicked : (run.execute tree nodes).2 = .error (.panicked index)) :
    ¬run.Looks tree nodes (.after index) state := by
  intro looked
  generalize here : Checkpoint.after index = checkpoint at looked
  cases looked with
  | before reached passed => simp at here
  | after reached found =>
    have behind := reached.length_lt_of_panicked panicked
    rw [Checkpoint.after.injEq, reached.index_of_getLast? found] at here
    omega

theorem Panics.not_stopsCleanly (panics : run.Panics tree nodes) :
    ¬run.StopsCleanly tree nodes := by
  intro clean
  rcases exists_calls_of_panics panics with ⟨batch, state, called, uncountable⟩
  have panicked := called.execute_of_uncountable uncountable
  rcases uncountable with ⟨reply, answered, -⟩
  cases read : ReplyObject.read reply.text with
  | error fault =>
    have failed := clean.unanswered batch state _ called (.shape answered read)
    simp [panicked] at failed
  | ok candidate =>
    have within : batch.index ≤ (run.batches nodes).length := by
      rcases called with ⟨reached, -, -, -⟩
      have length := reached.length_batches
      rw [index_of_batches reached.split, length, List.length_map, List.length_cons]
      omega
    rcases Nat.lt_or_eq_of_le within with inner | last
    · -- Whatever is asked of a look that is never reached holds.
      have flagged : ∀ later, run.Looks tree nodes (.after batch.index) later →
          run.cancel (.after batch.index) later.events = true := by
        intro later looked
        exact absurd looked (not_looks_after_of_panicked panicked)
      rcases clean.answered batch state reply candidate called answered read inner flagged with
        cancelled | ⟨⟨reason, failed⟩, -⟩
      · simp [panicked] at cancelled
      · simp [panicked] at failed
    · rcases (clean.lastAnswered batch state reply candidate called answered read last).2 with
        ⟨result, completed⟩ | ⟨⟨error, failed, saving⟩, -⟩
      · simp [panicked] at completed
      · obtain rfl := Except.error.inj (panicked.symm.trans failed)
        simp [TranslateError.ofSaving] at saving

/-- A run always heeds its signal. What becomes of the call in flight is decided by the reply first
and by the signal after that if and only if the tokens that the replies tell can be counted. -/
theorem stopsCleanly_iff (run : LocalizationRun) (tree : FileTree) (nodes : NodeMap) :
    run.HeedsSignal tree nodes ∧ (run.StopsCleanly tree nodes ↔ run.CountsFit tree nodes) := by
  refine ⟨heedsSignal_execute run tree nodes, ?_⟩
  rw [countsFit_iff]
  constructor
  · intro clean panics
    exact panics.not_stopsCleanly clean
  · intro calm
    exact stopsCleanly_of_calm calm

/-- The batches that were finished and the number of all batches, if a run was cancelled. -/
def cancellation? : Except TranslateError RunOutcome → Option (Nat × Nat)
  | .ok (.cancelled finished total) => some (finished, total)
  | _ => none

theorem cancellation?_eq_some_iff {ended : Except TranslateError RunOutcome}
    {finished : Nat} :
    cancellation? ended = some (finished, total) ↔ ended = .ok (.cancelled finished total) := by
  rcases ended with error | result | ⟨completed, batches⟩ <;> simp [cancellation?]

/-- The signal that is given for good while a batch is requested. -/
def raisedDuring (index : Nat) : CancelSignal := fun _ events =>
  events.any fun event => match event with
    | .batchStarted started _ _ => started = index
    | _ => false

/-- A run that is cancelled while its first batch is requested. -/
def cancelledRun : LocalizationRun :=
  replying steadyReplies sampleOptions (sampleDirs "pack") (raisedDuring 1)

set_option maxRecDepth 100000 in
theorem stopsCleanly_of_cancelledRun : ∃ course,
    (cancelledRun.execute newTree sampleNodes).2 = .ok (.cancelled 1 2) ∧ course.length = 1 ∧
      cancelledRun.Progress newTree sampleNodes course
        (cancelledRun.execute newTree sampleNodes).1.tree := by
  have cancelled : (cancelledRun.execute newTree sampleNodes).2 = .ok (.cancelled 1 2) :=
    cancellation?_eq_some_iff.1 (by decide +kernel)
  rcases (stopsCleanly_iff cancelledRun newTree sampleNodes).1.cancelled 1 2 cancelled with
    ⟨-, -, course, rest, length, -, -, -, progress⟩
  exact ⟨course, cancelled, length, progress⟩

/-- A run that is cancelled while its first batch is requested, for which the service tells too many
tokens. -/
def hugeCancelledRun : LocalizationRun := { hugeRun with cancel := raisedDuring 1 }

set_option maxRecDepth 100000 in
/-- The run panics instead of being cancelled behind the first of its two batches. -/
theorem not_stopsCleanly_of_hugeCancelledRun :
    (hugeCancelledRun.batches sampleNodes).length = 2 ∧
      (hugeCancelledRun.execute newTree sampleNodes).2 = .error (.panicked 1) ∧
      ¬hugeCancelledRun.StopsCleanly newTree sampleNodes := by
  have panicked : failure? (hugeCancelledRun.execute newTree sampleNodes).2 =
      some (.panicked 1) := by
    decide +kernel
  rw [failure?_eq_some_iff] at panicked
  exact ⟨by decide +kernel, panicked, Panics.not_stopsCleanly ⟨1, panicked⟩⟩

end LocalizationRun

end NodeLocale
