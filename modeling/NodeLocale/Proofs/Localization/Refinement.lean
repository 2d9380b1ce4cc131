import NodeLocale.Proofs.Localization.Batches
import NodeLocale.Proofs.Localization.TokenTotals
import NodeLocale.Proofs.Localization.Writability

/-!
# Runs refine the repair of the whole node map

A run that translates all its batches gives what one repair of all nodes gives. Along the batches,
the merged result and the log are those of the batches so far; together the batches are the node
map, and final validation leaves repaired nodes as they are. The size of the batches does not show
in the result, nor does what a reply says about the nodes of other batches. But what the replies say
about tokens does: if it cannot be counted, the run panics and gives nothing.
-/

namespace NodeLocale

namespace LocalizationRun

variable {run : LocalizationRun} {nodes : NodeMap} {tree : FileTree} {total : Nat}

/-- Whether the service answers a batch by an object that agrees with a candidate on the nodes of
the batch. -/
def AnswersLike (run : LocalizationRun) (candidate : JsonObject) (batch : Batch) : Prop :=
  ∀ tree, ∃ reply object, (run.service tree (run.request batch)).2 = .ok reply ∧
    ReplyObject.read reply.text = .ok object ∧
    ∀ key ∈ batch.nodes.keys, object.get? key = candidate.get? key

/-- What a batch adds to the merged nodes and to the log if it is not resumed. -/
theorem merged_of_step {candidate : JsonObject} {batch : Batch}
    (answers : run.AnswersLike candidate batch) {before after : RunState}
    (translated : after.resumed = 0) (step : BatchStep run total batch before after (.ok ())) :
    after.merged = before.merged.insertMany
        (reconcileBatch batch.nodes candidate).nodes.toJsonObject.entries ∧
      after.batchLog = before.batchLog ++ (reconcileBatch batch.nodes candidate).log := by
  cases step with
  | resumed found => simp [afterResuming, RunState.merge, RunState.register, RunState.report]
      at translated
  | translated absent answered counted read saved =>
    obtain ⟨reply, object, given, readGiven, agree⟩ := answers before.tree
    obtain rfl := Except.ok.inj (answered.symm.trans given)
    obtain rfl := Except.ok.inj (read.symm.trans readGiven)
    rw [reconcileBatch_congr agree]
    exact ⟨rfl, rfl⟩

/-- Translated batches leave their repaired nodes and their logs in a row. -/
theorem Processed.reconciles {candidate : JsonObject} {done : List Batch} {first last : RunState}
    (processed : Processed run total done first last) (emptyMerged : first.merged = ∅)
    (emptyLog : first.batchLog = []) (translated : last.resumed = 0)
    (answers : ∀ batch ∈ done, run.AnswersLike candidate batch)
    (distinct : (done.flatMap fun batch => batch.nodes.keys).Nodup) :
    last.merged.entries = (done.flatMap fun batch =>
        (reconcileBatch batch.nodes candidate).nodes.toJsonObject.entries) ∧
      last.batchLog = done.flatMap fun batch => (reconcileBatch batch.nodes candidate).log := by
  induction processed with
  | none => exact ⟨by rw [emptyMerged]; rfl, emptyLog⟩
  | @next done batch first before after earlier unseen step ih =>
    have earlierTranslated : before.resumed = 0 :=
      Nat.le_zero.1 (translated ▸ resumed_le_of_step step)
    rw [List.flatMap_append, List.flatMap_singleton] at distinct
    obtain ⟨mergedBefore, logBefore⟩ := ih emptyMerged emptyLog earlierTranslated
      (fun other member => answers other (by simp [member]))
      (distinct.sublist (List.sublist_append_left _ _))
    obtain ⟨merged, log⟩ := merged_of_step (answers batch (by simp)) translated step
    have keysOf : ∀ batch : Batch,
        (reconcileBatch batch.nodes candidate).nodes.toJsonObject.entries.map Prod.fst =
          batch.nodes.keys := by
      intro batch
      change (reconcileBatch batch.nodes candidate).nodes.toJsonObject.keys = _
      rw [NodeMap.toJsonObject, reconcileBatch, Repair.reconcileBy, OrderedMap.keys_mapValues,
        OrderedMap.keys_mapValues]
    refine ⟨?_, by rw [log, logBefore]; simp⟩
    rw [merged, OrderedMap.entries_insertMany, mergedBefore]
    · simp
    · rw [mergedBefore, List.map_append, List.map_flatMap]
      simpa only [keysOf] using distinct

variable (run nodes) in
/-- The result of translating all nodes at once by one candidate. -/
def oneShot (candidate : JsonObject) : Reconciled :=
  (run.applyGlossary ⟨(reconcileBatch nodes.withoutSources candidate).nodes, []⟩).1

theorem AnswersLike.answers {candidate : JsonObject} {batch : Batch}
    (answers : run.AnswersLike candidate batch) : run.Answers batch := by
  intro tree
  obtain ⟨reply, object, given, read, _⟩ := answers tree
  exact ⟨reply, object, given, read⟩

theorem validated_of_processed {candidate : JsonObject} {first last : RunState}
    (answers : ∀ batch ∈ run.batches nodes, run.AnswersLike candidate batch)
    (processed : Processed run total (run.batches nodes) first last)
    (emptyMerged : first.merged = ∅) (emptyLog : first.batchLog = [])
    (translated : last.resumed = 0) :
    run.validated nodes.withoutSources last = run.oneShot nodes candidate ∧
      last.batchLog = (reconcileBatch nodes.withoutSources candidate).log := by
  have distinct : ((run.batches nodes).flatMap fun batch => batch.nodes.keys).Nodup := by
    have keys := nodes.withoutSources.distinct
    rw [← Batch.flatMap_entries_partition run.options.batchSize, List.map_flatMap] at keys
    exact keys
  obtain ⟨merged, log⟩ :=
    processed.reconciles emptyMerged emptyLog translated answers distinct
  refine ⟨?_, log.trans (flatMap_reconcileBatch_log _ _ _)⟩
  have whole : last.merged =
      (reconcileBatch nodes.withoutSources candidate).nodes.toJsonObject := by
    apply OrderedMap.ext
    rw [merged]
    change _ = List.map _ _
    rw [← flatMap_reconcileBatch_nodes run.options.batchSize, List.map_flatMap]
    rfl
  rw [validated, whole, finalValidation_reconcileBatch]
  rfl

/-- Whether a run gives what one repair of all nodes gives, with a log of the glossary alone, or
fails only because an artifact cannot be saved. -/
def Refines (run : LocalizationRun) (tree : FileTree) (nodes : NodeMap) (candidate : JsonObject) :
    Prop :=
  (∃ result, (run.execute tree nodes).2 = .ok (.completed result) ∧
    ⟨result.nodes, result.finalLog⟩ = run.oneShot nodes candidate ∧
    result.batchLog = (reconcileBatch nodes.withoutSources candidate).log) ∨
  ∃ error, (run.execute tree nodes).2 = .error error ∧ error.ofSaving = true ∧
    ¬ (CanSave run nodes tree ∧ run.KeepsWritable)

theorem refines_of_calm {candidate : JsonObject}
    (answers : ∀ batch ∈ run.batches nodes, run.AnswersLike candidate batch)
    (notResumed : (run.execute tree nodes).1.resumed = 0)
    (notCancelled : ∀ completed total,
      (run.execute tree nodes).2 ≠ .ok (.cancelled completed total))
    (calm : ¬run.Panics tree nodes) : run.Refines tree nodes candidate := by
  rcases completed_or_unsaved (fun batch member => (answers batch member).answers) calm
    notCancelled with ⟨result, outcome⟩ | unsaved
  · left
    obtain ⟨prepared, last, saved, _, _, processed, _, reached, rfl⟩ :=
      processed_of_completed outcome
    rw [reached, resumed_afterResult] at notResumed
    obtain ⟨nodesAndLog, batchLog⟩ :=
      validated_of_processed answers processed rfl rfl notResumed
    refine ⟨_, outcome, nodesAndLog, ?_⟩
    rw [← batchLog, reached]
    exact batchLog_afterResult
  · exact .inr unsaved

theorem Panics.not_refines {candidate : JsonObject} (panics : run.Panics tree nodes) :
    ¬run.Refines tree nodes candidate := by
  rcases panics with ⟨batch, panicked⟩
  rintro (⟨result, completed, -⟩ | ⟨error, failed, saving, -⟩)
  · simp [panicked] at completed
  · obtain rfl := Except.error.inj (failed.symm.trans panicked)
    simp [TranslateError.ofSaving] at saving

/-- A run that resumes nothing and is not cancelled gives what one repair of all nodes gives if and
only if the tokens that its replies tell can be counted. Else it panics. -/
theorem refines_reconcileBatch_iff {candidate : JsonObject}
    (answers : ∀ batch ∈ run.batches nodes, run.AnswersLike candidate batch)
    (notResumed : (run.execute tree nodes).1.resumed = 0)
    (notCancelled : ∀ completed total,
      (run.execute tree nodes).2 ≠ .ok (.cancelled completed total)) :
    (run.Refines tree nodes candidate ↔ run.CountsFit tree nodes) ∧
      (¬run.CountsFit tree nodes → run.Panics tree nodes) := by
  refine ⟨?_, (panics_iff run tree nodes).2⟩
  rw [countsFit_iff]
  constructor
  · intro refines panics
    exact panics.not_refines refines
  · intro calm
    exact refines_of_calm answers notResumed notCancelled calm

/-- A candidate for the sample nodes. -/
def sampleCandidate : JsonObject :=
  .ofList [("Blur", .object [("title", .string "Soft")]), ("Mix", .null)]

/-- Replies from the candidate, where the first one also says something about the second node. -/
def strayReply (request : LocalizationRequest) : String :=
  if request.batch = 1 then
    (Json.object (sampleCandidate.entries.take 1 ++ [("Mix", .object [])])).compact
  else Json.compact (.object [("Mix", .null)])

set_option maxRecDepth 100000 in
/-- What the first reply says about the second node has no effect. -/
theorem refines_reconcileBatch_of_strayReply :
    ∃ result, ((sampleRun strayReply).execute .empty sampleNodes).2 = .ok (.completed result) ∧
      ⟨result.nodes, result.finalLog⟩ =
        (sampleRun strayReply).oneShot sampleNodes sampleCandidate ∧
      result.batchLog = (reconcileBatch sampleNodes.withoutSources sampleCandidate).log := by
  have batches : (sampleRun strayReply).batches sampleNodes =
      [⟨1, .ofList (sampleNodes.entries.take 1)⟩, ⟨2, .ofList (sampleNodes.entries.drop 1)⟩] := by
    decide +kernel
  have completes : (completedRun? ((sampleRun strayReply).execute .empty sampleNodes).2).map
      (fun result => result.resumedBatches) = some 0 := by decide +kernel
  have answers : ∀ batch ∈ (sampleRun strayReply).batches sampleNodes,
      (sampleRun strayReply).AnswersLike sampleCandidate batch := by
    rw [batches]
    intro batch member tree
    simp only [List.mem_cons, List.not_mem_nil, or_false] at member
    rcases member with rfl | rfl
    · exact ⟨_, .ofList (sampleCandidate.entries.take 1 ++ [("Mix", .object [])]), rfl,
        by decide +kernel, by decide +kernel⟩
    · exact ⟨_, .ofList [("Mix", .null)], rfl, by decide +kernel, by decide +kernel⟩
  obtain ⟨result, found, notResumed⟩ := Option.map_eq_some_iff.1 completes
  have completed := completedRun?_eq_some_iff.1 found
  rw [resumedBatches_of_completed completed] at notResumed
  have fit : (sampleRun strayReply).CountsFit .empty sampleNodes :=
    countsFit_of_untold (by
      rintro batch - tree reply ⟨⟩
      rfl)
  refine ((refines_reconcileBatch_iff answers notResumed ?_).1.2 fit).resolve_right ?_
  · simp [completed]
  · simp [completed]

/-- A reply that tells too many tokens keeps a run from giving anything, though it answers for all
nodes. -/
theorem not_refines_of_hugeRun :
    (∀ batch ∈ hugeRun.batches sampleNode, hugeRun.AnswersLike ∅ batch) ∧
      (hugeRun.execute .empty sampleNode).1.resumed = 0 ∧
      (hugeRun.execute .empty sampleNode).2 = .error (.panicked 1) ∧
      ¬hugeRun.Refines .empty sampleNode ∅ := by
  have answers : ∀ batch ∈ hugeRun.batches sampleNode, hugeRun.AnswersLike ∅ batch :=
    fun batch member tree => ⟨_, ∅, rfl, by decide +kernel, fun key _ => rfl⟩
  have panicked := execute_hugeRun
  exact ⟨answers, by decide +kernel, panicked, Panics.not_refines ⟨1, panicked⟩⟩

end LocalizationRun

end NodeLocale
