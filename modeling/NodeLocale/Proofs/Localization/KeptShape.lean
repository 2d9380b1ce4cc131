import NodeLocale.Proofs.Localization.Endings
import NodeLocale.Proofs.Reconcile.Shape

/-!
# Runs keep the shape of the nodes

What a completed run gives back has the node keys that it was given and, inside every node, the
field keys of every section, all in order. Nothing that the run meets on its way can break this:
saved batches are accepted by their node keys alone and replies may hold anything, but the merged
result is validated against the pending nodes, which dictate the shape.
-/

namespace NodeLocale

namespace LocalizationRun

variable {run : LocalizationRun} {nodes : NodeMap}

theorem shape_applyGlossary (validated : Reconciled) :
    (run.applyGlossary validated).1.nodes.shape = validated.nodes.shape := by
  rw [applyGlossary]
  split
  · rfl
  · rename_i glossary _
    exact glossary.shape_onNodes validated.nodes

theorem shape_validated (pending : NodeMap) (before : RunState) :
    (run.validated pending before).nodes.shape = pending.shape := by
  rw [validated, shape_applyGlossary]
  exact Repair.shape_reconcileBy Repair.finalVerdict pending before.merged

/-- A completed run keeps the shape of its nodes, whatever files it found and whatever the service
replied. -/
theorem shape_of_completed {tree : FileTree} {result : CompletedRun}
    (completed : (run.execute tree nodes).2 = .ok (.completed result)) :
    result.nodes.shape = nodes.shape := by
  obtain ⟨_, last, _, _, _, _, _, _, rfl⟩ := processed_of_completed completed
  change (run.validated nodes.withoutSources last).nodes.shape = nodes.shape
  rw [shape_validated, NodeMap.shape_withoutSources]

/-- The node as an older run saved it, with a field that it no longer has. -/
def staleNode : NodeMap :=
  .ofList [("Blur", { title := "Soft", outputs := .ofList [("x", "y")] })]

/-- The files that the older run left behind. -/
def staleTree : FileTree :=
  (Artifact.saveJson .empty ((sampleDirs "pack").batchFile 1) staleNode.toJson).1

/-- A run that resumes the stale file. -/
def staleRun : LocalizationRun :=
  { sampleRun fun _ => "" with options := { sampleOptions with resume := true } }

set_option maxRecDepth 100000 in
/-- A stale file is resumed, and its stale field does not get into the result. -/
theorem shape_of_stale_resumption : ∃ result,
    (staleRun.execute staleTree sampleNode).2 = .ok (.completed result) ∧
      result.resumedBatches = 1 ∧ result.nodes.shape = sampleNode.shape := by
  have resumes : (completedRun? (staleRun.execute staleTree sampleNode).2).map
      (fun result => result.resumedBatches) = some 1 := by decide +kernel
  obtain ⟨result, found, resumed⟩ := Option.map_eq_some_iff.1 resumes
  have completed := completedRun?_eq_some_iff.1 found
  exact ⟨result, completed, resumed, shape_of_completed completed⟩

end LocalizationRun

end NodeLocale
