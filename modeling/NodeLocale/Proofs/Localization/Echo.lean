import NodeLocale.Proofs.Localization.Messages
import NodeLocale.Proofs.Localization.Refinement
import NodeLocale.Proofs.Localization.Resumption
import NodeLocale.Proofs.Reconcile.RepairFixedPoint

/-!
# Services that echo

A service that gives every message back answers each batch by the nodes of the batch. Repair takes
them as they are, and so does final validation, so a run with such a service gives the nodes that
it was to translate and records nothing, whatever the size of its batches.
-/

namespace NodeLocale

/-- Whether a service gives every message back. -/
def LocalizationService.Echoes (service : LocalizationService) : Prop :=
  ∀ tree request, (service tree request).2 = .ok (.ofOutput request.user)

namespace LocalizationRun

variable {run : LocalizationRun} {nodes : NodeMap} {tree : FileTree}

/-- An echo is an answer from the nodes themselves. -/
theorem answersLike_of_echoes (echoes : run.service.Echoes) :
    ∀ batch ∈ run.batches nodes, run.AnswersLike nodes.withoutSources.toJsonObject batch := by
  intro batch member tree
  have given : (run.service tree (run.request batch)).2 =
      .ok { text := LocalizationRequest.userMessage batch.nodes } := by
    rw [echoes, ← LocalizationRequest.ofOutput_userMessage]
    rfl
  refine ⟨_, _, given, LocalizationRequest.read_userMessage batch.nodes, fun node inBatch => ?_⟩
  rw [NodeMap.toJsonObject, NodeMap.toJsonObject, OrderedMap.get?_mapValues,
    OrderedMap.get?_mapValues, Batch.get?_of_mem_partition member inBatch]

theorem answers_of_echoes (echoes : run.service.Echoes) :
    ∀ batch ∈ run.batches nodes, run.Answers batch := by
  intro batch member
  exact (answersLike_of_echoes echoes batch member).answers

/-- An echo tells no usage of tokens. -/
theorem not_panics_of_echoes (echoes : run.service.Echoes) : ¬run.Panics tree nodes := by
  apply not_panics_of_untold
  intro batch member after reply answered
  have echoed : reply = { text := LocalizationRequest.userMessage batch.nodes } := by
    rw [echoes] at answered
    rw [← Except.ok.inj answered, ← LocalizationRequest.ofOutput_userMessage]
    rfl
  rw [echoed]

theorem reconcileBatch_toJsonObject (source : NodeMap) :
    reconcileBatch source source.toJsonObject = ⟨source, []⟩ := by
  have fixed : RepairPass.batch.run source source.toJsonObject = ⟨source, []⟩ :=
    RepairPass.run_toJsonObject_eq_iff.2 (.refl source)
  exact fixed

/-- What a run gives whose service echoes. -/
theorem unchanged_of_completed {result : CompletedRun} (echoes : run.service.Echoes)
    (noGlossary : run.options.glossary = none)
    (notResumed : (run.execute tree nodes).1.resumed = 0)
    (completed : (run.execute tree nodes).2 = .ok (.completed result)) :
    result.nodes = nodes.withoutSources ∧ result.batchLog = [] ∧ result.finalLog = [] := by
  rcases processed_of_completed completed with
    ⟨prepared, last, saved, -, -, processed, -, reached, rfl⟩
  rw [reached, resumed_afterResult] at notResumed
  rcases validated_of_processed (answersLike_of_echoes echoes) processed rfl rfl notResumed with
    ⟨validated, batchLog⟩
  rw [oneShot, reconcileBatch_toJsonObject, applyGlossary, noGlossary] at validated
  rw [reconcileBatch_toJsonObject] at batchLog
  rw [completion, validated, reached, batchLog_afterResult, batchLog]
  exact ⟨rfl, rfl, rfl⟩

/-- A run whose service echoes, that resumes nothing and is not cancelled gives back the nodes
without the files that define them, and records nothing. Only if an artifact cannot be saved does
it fail. -/
theorem unchanged_of_echoes (echoes : run.service.Echoes)
    (noGlossary : run.options.glossary = none)
    (notResumed : (run.execute tree nodes).1.resumed = 0)
    (notCancelled : ∀ completed total,
      (run.execute tree nodes).2 ≠ .ok (.cancelled completed total)) :
    (∃ result, (run.execute tree nodes).2 = .ok (.completed result) ∧
      result.nodes = nodes.withoutSources ∧ result.batchLog = [] ∧ result.finalLog = []) ∨
    ∃ error, (run.execute tree nodes).2 = .error error ∧ error.ofSaving = true ∧
      ¬ (CanSave run nodes tree ∧ run.KeepsWritable) := by
  rcases completed_or_unsaved (answers_of_echoes echoes) (not_panics_of_echoes echoes)
    notCancelled with ⟨result, completed⟩ | unsaved
  · left
    exact ⟨result, completed, unchanged_of_completed echoes noGlossary notResumed completed⟩
  · exact Or.inr unsaved

/-- A run whose service echoes. -/
def echoingRun : LocalizationRun where
  service := .ofReplies fun request => .ok (.ofOutput request.user)
  options := sampleOptions
  dirs := sampleDirs "pack"

/-- Nodes whose names and labels hold braces, quotes and line breaks. -/
def bracedNodes : NodeMap :=
  .ofList
    [("\x7d\x7b", { title := "\x7b\"title\": \"\x7d", sourceFile := some ⟨"/plugins/pack.py"⟩ }),
      ("Mix\n", { title := "\\", inputs := .ofList [("图像", "\x7d")] })]

set_option maxRecDepth 100000 in
theorem unchanged_of_echoingRun :
    ∃ result, (echoingRun.execute newTree bracedNodes).2 = .ok (.completed result) ∧
      result.nodes = bracedNodes.withoutSources ∧ result.batchLog = [] ∧
      result.finalLog = [] := by
  have echoes : echoingRun.service.Echoes := fun _ _ => rfl
  have possible : CanSave echoingRun bracedNodes newTree := ⟨⟨_, _, rfl⟩, by decide +kernel⟩
  rcases completes possible (fun _ _ _ writable => writable) (answers_of_echoes echoes)
    (not_panics_of_echoes echoes) rfl with ⟨result, completed⟩
  have notResumed := resumedBatches_eq_zero rfl completed
  rw [resumedBatches_of_completed completed] at notResumed
  refine (unchanged_of_echoes echoes rfl notResumed ?_).resolve_right ?_
  · simp [completed]
  · simp [completed]

end LocalizationRun

end NodeLocale
