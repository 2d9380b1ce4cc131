import NodeLocale.Proofs.Localization.Failure

/-!
# What a run reports

The reports of a run follow a grammar. They open with the numbers of nodes and of batches. Then the
batches follow in their order, none left out and none told twice: a resumed batch has one report, a
translated one has its start, the usage of tokens if the service told it, and its completion. A run
that fails at a batch breaks off behind the start and the usage, one that panics right behind the
start, a cancelled run behind a batch that is finished, and the final validation is told last or not
at all.

`Trace` is the grammar of what is told along a course, and `Ending` says how it may go on. The
requests to the service are the started batches, one for one.
-/

namespace NodeLocale

/-- The batch whose start is reported. -/
def RunEvent.startedBatch? : RunEvent → Option Nat
  | batchStarted index _ _ => some index
  | _ => none

namespace LocalizationRun

/-- What is reported along a course, with the counts of tokens behind it. -/
inductive Trace (nodeCount total : Nat) :
    List (Batch × Handling) → TokenUsage → List RunEvent → Prop
  | started : Trace nodeCount total [] {} [.started nodeCount total]
  | resumed {course : List (Batch × Handling)} {counts : TokenUsage} {events : List RunEvent}
      {batch : Batch} {saved : NodeMap} (earlier : Trace nodeCount total course counts events)
      (inTurn : batch.index = course.length + 1) :
      Trace nodeCount total (course ++ [(batch, .resumed saved)]) counts
        (events ++ [.batchResumed batch.index total])
  | translated {course : List (Batch × Handling)} {counts next : TokenUsage}
      {events : List RunEvent} {batch : Batch} {reply : ServiceReply} {candidate : JsonObject}
      (earlier : Trace nodeCount total course counts events)
      (inTurn : batch.index = course.length + 1)
      (counted : counts.recordTold? reply.usage = some next) :
      Trace nodeCount total (course ++ [(batch, .translated reply candidate)]) next
        (events ++ [.batchStarted batch.index total batch.nodeNames] ++
          usageReports batch.index next reply.usage ++
            [.batchCompleted batch.index total
              (reconcileBatch batch.nodes candidate).log.length])

/-- What is reported behind a course, by how the run ends. The batches that are left and the counts
of tokens are given. -/
inductive Ending (total : Nat) (counts : TokenUsage) :
    List Batch → Except TranslateError RunOutcome → List RunEvent → Prop
  | cancelled {rest : List Batch} {finished : Nat} (more : rest ≠ [])
      (behind : finished + rest.length = total) :
      Ending total counts rest (.ok (.cancelled finished total)) []
  | failed {batch : Batch} {rest : List Batch} {error : TranslateError} {next : TokenUsage}
      (usage : Option TokenUsage) (counted : counts.recordTold? usage = some next)
      (failedThere : error.batch? = some batch.index) (calm : error ≠ .panicked batch.index) :
      Ending total counts (batch :: rest) (.error error)
        (.batchStarted batch.index total batch.nodeNames :: usageReports batch.index next usage)
  | panicked {batch : Batch} {rest : List Batch} (usage : TokenUsage)
      (uncounted : counts.record? usage = none) :
      Ending total counts (batch :: rest) (.error (.panicked batch.index))
        [.batchStarted batch.index total batch.nodeNames]
  | notSaved (corrections : Nat) (reason : String) :
      Ending total counts [] (.error (.finalize reason)) [.finalValidation corrections]
  | completed (result : CompletedRun) :
      Ending total counts [] (.ok (.completed result))
        [.finalValidation result.finalLog.length]

variable {run : LocalizationRun} {nodes : NodeMap} {tree prepared : FileTree} {batch : Batch}
  {course : List (Batch × Handling)} {rest : List Batch} {before last : RunState}
  {counts : TokenUsage} {events ending : List RunEvent} {total nodeCount : Nat}
  {ended : Except TranslateError RunOutcome}

/-! ### Along a course -/

theorem Handles.trace {handling : Handling}
    (handled : run.Handles total batch before handling last)
    (inTurn : batch.index = course.length + 1)
    (earlier : Trace nodeCount total course before.tokens before.events) :
    Trace nodeCount total (course ++ [(batch, handling)]) last.tokens last.events := by
  cases handled with
  | resumed found => exact earlier.resumed inTurn
  | translated absent answered counted read saved => exact earlier.translated inTurn counted

theorem Course.trace (taken : run.Course (run.batches nodes).length (run.opening prepared nodes)
      course last)
    (split : run.batches nodes = course.map Prod.fst ++ rest) :
    Trace nodes.size (run.batches nodes).length course last.tokens last.events := by
  induction taken generalizing rest with
  | start =>
    have sameSize : nodes.withoutSources.size = nodes.size := by
      simp [NodeMap.withoutSources, OrderedMap.size, OrderedMap.mapValues]
    rw [← sameSize]
    exact .started
  | @next course batch handling before after earlier passed unseen handled ih =>
    have front : run.batches nodes = course.map Prod.fst ++ batch :: rest := by
      simpa using split
    have inTurn : batch.index = course.length + 1 := by
      rw [index_of_batches front, List.length_map]
    exact handled.trace inTurn (ih front)

theorem Reaches.trace (reached : run.Reaches tree nodes course rest last) :
    Trace nodes.size (run.batches nodes).length course last.tokens last.events := by
  rcases reached.taken with ⟨prepared, -, taken⟩
  exact taken.trace reached.split

/-! ### What the grammar says -/

@[simp]
theorem filterMap_startedBatch?_usageReports (index : Nat) (usage : Option TokenUsage) :
    (usageReports index counts usage).filterMap RunEvent.startedBatch? = [] := by
  cases usage <;> rfl

theorem Trace.filterMap_startedBatch? (trace : Trace nodeCount total course counts events) :
    events.filterMap RunEvent.startedBatch? =
      (course.flatMap fun entry => entry.2.requests run entry.1).map
        LocalizationRequest.batch := by
  induction trace with
  | started => rfl
  | resumed earlier inTurn ih => simp [ih, Handling.requests, RunEvent.startedBatch?]
  | translated earlier inTurn counted ih =>
    simp [ih, Handling.requests, RunEvent.startedBatch?, request, LocalizationRequest.ofBatch]

theorem finalValidation_not_mem_usageReports (index corrections : Nat)
    (usage : Option TokenUsage) :
    .finalValidation corrections ∉ usageReports index counts usage := by
  cases usage <;> simp [usageReports]

theorem Trace.finalValidation_not_mem (trace : Trace nodeCount total course counts events)
    (corrections : Nat) : .finalValidation corrections ∉ events := by
  induction trace with
  | started => simp
  | resumed earlier inTurn ih => simp [ih]
  | translated earlier inTurn counted ih => simp [ih, finalValidation_not_mem_usageReports]

theorem eq_nil_of_append_cons_eq {front back behind : List RunEvent} {event last : RunEvent}
    (absent : event ∉ behind) (same : behind ++ [last] = front ++ event :: back) : back = [] := by
  rcases List.eq_nil_or_concat back with rfl | ⟨middle, final, rfl⟩
  · rfl
  · rw [List.concat_eq_append, ← List.cons_append, ← List.append_assoc] at same
    have shorter := (List.append_inj' same rfl).1
    exact absurd (by simp [shorter]) absent

/-- The final validation is told last, and behind all batches. -/
theorem Ending.finalValidation_last {behind front back : List RunEvent} {corrections : Nat}
    (ends : Ending total counts rest ended ending)
    (absent : ∀ corrections, .finalValidation corrections ∉ behind)
    (told : behind ++ ending = front ++ .finalValidation corrections :: back) :
    back = [] ∧ rest = [] := by
  have member : .finalValidation corrections ∈ behind ++ ending := by simp [told]
  cases ends with
  | cancelled more behindAll => simp [absent] at member
  | failed usage counted failedThere calm =>
    simp [absent, finalValidation_not_mem_usageReports] at member
  | panicked usage uncounted => simp [absent] at member
  | notSaved _ reason => exact ⟨eq_nil_of_append_cons_eq (absent _) told, rfl⟩
  | completed result => exact ⟨eq_nil_of_append_cons_eq (absent _) told, rfl⟩

/-! ### In the end -/

theorem ending_of_step {error : TranslateError}
    (step : BatchStep run total batch before last (.error error)) :
    ∃ ending, last.events = before.events ++ ending ∧
      Ending total before.tokens (batch :: rest) (.error error) ending ∧
      ending.filterMap RunEvent.startedBatch? = [batch.index] := by
  have begun : (run.afterRequest total batch before).events =
      before.events ++ [.batchStarted batch.index total batch.nodeNames] := rfl
  have replied : ∀ usage tokens, (run.afterReply total batch usage tokens before).events =
      before.events ++ .batchStarted batch.index total batch.nodeNames ::
        usageReports batch.index tokens usage := by
    intro usage tokens
    rw [afterReply, begun, List.append_assoc]
    rfl
  cases step with
  | serviceFailed absent answered =>
    exact ⟨_, begun, .failed none rfl rfl (by simp), rfl⟩
  | panicked absent answered uncounted =>
    rcases TokenUsage.recordTold?_eq_none_iff.1 uncounted with ⟨usage, -, unrecorded⟩
    exact ⟨_, begun, .panicked usage unrecorded, rfl⟩
  | replyUnusable absent answered counted unread =>
    refine ⟨_, replied _ _, .failed _ counted rfl (by simp), ?_⟩
    simp [RunEvent.startedBatch?]
  | notSaved absent answered counted read unsaved =>
    refine ⟨_, replied _ _, .failed _ counted rfl (by simp), ?_⟩
    simp [RunEvent.startedBatch?]

theorem ending_of_finish {pending : NodeMap} :
    ∃ ending, (run.finish pending total before).1.events = before.events ++ ending ∧
      Ending total counts [] (run.finish pending total before).2 ending ∧
      ending.filterMap RunEvent.startedBatch? = [] := by
  rcases kept : run.saveResult before.tree (run.validated pending before) with ⟨tree, error | _⟩
  · rw [finish_of_unsaved kept]
    exact ⟨_, rfl, .notSaved _ _, rfl⟩
  · rw [finish_of_saved kept]
    refine ⟨_, ?_, .completed _, rfl⟩
    rw [afterResult, cleanUp]
    split <;> rfl

/-- The protocol of a run that took a course to a state, with some batches left. -/
structure KeepsProtocol (run : LocalizationRun) (tree : FileTree) (nodes : NodeMap)
    (course : List (Batch × Handling)) (rest : List Batch) (state : RunState) : Prop where
  reached : run.Reaches tree nodes course rest state
  trace : Trace nodes.size (run.batches nodes).length course state.tokens state.events
  ended : ∃ ending, (run.execute tree nodes).1.events = state.events ++ ending ∧
    Ending (run.batches nodes).length state.tokens rest (run.execute tree nodes).2 ending
  validatedLast : ∀ front corrections back,
    (run.execute tree nodes).1.events = front ++ .finalValidation corrections :: back →
      back = [] ∧ rest = []
  /-- The service is called once for each batch that is started, in their order. -/
  called : (run.execute tree nodes).1.requests.map LocalizationRequest.batch =
    (run.execute tree nodes).1.events.filterMap RunEvent.startedBatch?

theorem Reaches.keepsProtocol (reached : run.Reaches tree nodes course rest last)
    (told : (run.execute tree nodes).1.events = last.events ++ ending)
    (ends : Ending (run.batches nodes).length last.tokens rest (run.execute tree nodes).2 ending)
    (called : (run.execute tree nodes).1.requests.map LocalizationRequest.batch =
      last.requests.map LocalizationRequest.batch ++
        ending.filterMap RunEvent.startedBatch?) :
    run.KeepsProtocol tree nodes course rest last := by
  constructor
  case reached => exact reached
  case trace => exact reached.trace
  case ended => exact ⟨ending, told, ends⟩
  case validatedLast =>
    intro front corrections back same
    rw [told] at same
    exact ends.finalValidation_last reached.trace.finalValidation_not_mem same
  case called =>
    rw [called, told, List.filterMap_append, reached.trace.filterMap_startedBatch?,
      reached.requests]

/-- A run whose pending nodes are saved keeps to the protocol, however it ends. -/
theorem keepsProtocol_of_prepared
    (prepared : (Artifact.saveJson tree run.dirs.pendingFile nodes.withoutSources.toJson).2 =
      .ok ()) :
    ∃ course rest state, run.KeepsProtocol tree nodes course rest state := by
  have ends := courseEnd_execute run tree nodes
  generalize whole : run.execute tree nodes = result at ends
  rcases result with ⟨after, outcome⟩
  dsimp only at ends
  cases ends with
  | unprepared unsaved => simp [unsaved] at prepared
  | @cancelled course rest _ reached more =>
    have behind : Ending (run.batches nodes).length after.tokens rest
        (run.execute tree nodes).2 [] := by
      rw [whole]
      exact .cancelled more reached.length_batches.symm
    refine ⟨course, rest, after, reached.keepsProtocol ?_ behind ?_⟩
    · rw [whole, List.append_nil]
    · rw [whole, List.filterMap_nil, List.append_nil]
  | @failed course batch rest before _ error reached step =>
    rcases requested_of_step step with ⟨-, requests, -⟩
    rcases ending_of_step step with ⟨ending, told, behind, started⟩
    have ends : Ending (run.batches nodes).length before.tokens (batch :: rest)
        (run.execute tree nodes).2 ending := by
      rw [whole]
      exact behind
    refine ⟨course, batch :: rest, before, reached.keepsProtocol ?_ ends ?_⟩
    · rw [whole, told]
    · rw [whole, started, requests, List.map_append]
      rfl
  | @finished course last _ _ reached ended =>
    rcases ending_of_finish with ⟨ending, told, behind, unasked⟩
    rw [← reached.execute_of_nil] at told behind
    refine ⟨course, [], last, reached.keepsProtocol told behind ?_⟩
    rw [reached.execute_of_nil, requests_finish, unasked, List.append_nil]

/-- A run of which the first batch is resumed, the second one translated and the third one not,
where the service tells how many tokens it used. -/
def tellingRun : LocalizationRun :=
  replying (fun request =>
    if request.batch = 3 then .ok { text := "no nodes", usage := some ⟨5, 2, 0⟩ }
    else .ok { text := Json.compact (.object [("Mix", .null)]), usage := some ⟨3, 1, 4⟩ })
      { sampleOptions with resume := true } (sampleDirs "pack") .never

set_option maxRecDepth 100000 in
theorem keepsProtocol_of_tellingRun :
    (tellingRun.execute failedRun.1.tree threeNodes).1.events =
        [.started 3 3, .batchResumed 1 3, .batchStarted 2 3 ["Mix"], .batchUsage 2 ⟨3, 1, 4⟩ 4,
          .batchCompleted 2 3 1, .batchStarted 3 3 ["Sharpen"], .batchUsage 3 ⟨5, 2, 0⟩ 11] ∧
      ∃ course rest state,
        tellingRun.KeepsProtocol failedRun.1.tree threeNodes course rest state := by
  constructor
  · decide +kernel
  · apply keepsProtocol_of_prepared
    decide +kernel

end LocalizationRun

end NodeLocale
