import NodeLocale.Proofs.Localization.Failure
import NodeLocale.Proofs.Localization.Messages

/-!
# What a run sends

A run that resumes nothing requests its batches one after another. The nodes of a batch are read
from the message of its request, so the messages together hold every node once and in order: the
batches divide the nodes, and all but the last are full.
-/

namespace NodeLocale

/-- Whether node maps are the slices of a given length of another, of which the last one may be
shorter. -/
structure NodeMap.Divides (size : Nat) (parts : List NodeMap) (nodes : NodeMap) : Prop where
  whole : parts.flatMap OrderedMap.entries = nodes.entries
  filled : ∀ part ∈ parts, 1 ≤ part.size ∧ part.size ≤ max size 1
  full : ∀ part ∈ parts.dropLast, part.size = max size 1

theorem Batch.divides_partition (size : Nat) (nodes : NodeMap) :
    NodeMap.Divides size ((partition size nodes).map Batch.nodes) nodes := by
  constructor
  · rw [List.flatMap_map]
    exact flatMap_entries_partition size nodes
  · intro part member
    rcases List.mem_map.1 member with ⟨batch, inPartition, rfl⟩
    exact size_of_mem_partition inPartition
  · intro part member
    rw [← List.map_dropLast] at member
    rcases List.mem_map.1 member with ⟨batch, inPartition, rfl⟩
    exact size_of_mem_dropLast_partition inPartition

namespace LocalizationRun

variable {run : LocalizationRun} {nodes : NodeMap} {tree : FileTree} {total : Nat}

/-- The nodes of a batch do not tell the files that define them. -/
theorem withoutSources_of_mem_batches {batch : Batch} (member : batch ∈ run.batches nodes) :
    batch.nodes.withoutSources = batch.nodes := by
  apply OrderedMap.ext
  change batch.nodes.entries.map _ = batch.nodes.entries
  refine (List.map_congr_left fun entry inBatch => ?_).trans (List.map_id _)
  have pending := Batch.mem_entries_of_mem_partition member inBatch
  rcases List.mem_map.1 pending with ⟨source, -, rfl⟩
  rfl

/-- The nodes of a batch are read from the message of its request. -/
theorem nodes?_request {batch : Batch} (member : batch ∈ run.batches nodes) :
    (run.request batch).nodes? = some batch.nodes := by
  rw [request, LocalizationRequest.nodes?_ofBatch, withoutSources_of_mem_batches member]

theorem requests_of_step {batch : Batch} {before after : RunState} (translated : after.resumed = 0)
    (step : BatchStep run total batch before after (.ok ())) :
    after.requests = before.requests ++ [run.request batch] := by
  cases step with
  | resumed found => simp [afterResuming, RunState.merge, RunState.register, RunState.report]
      at translated
  | translated absent answered counted read saved => rfl

theorem Processed.requests {done : List Batch} {first last : RunState}
    (processed : Processed run total done first last) (translated : last.resumed = 0) :
    last.requests = first.requests ++ done.map run.request := by
  induction processed with
  | none => simp
  | @next done batch first before after earlier unseen step ih =>
    have earlierTranslated : before.resumed = 0 :=
      Nat.le_zero.1 (translated ▸ resumed_le_of_step step)
    rw [requests_of_step translated step, ih earlierTranslated, List.map_append,
      List.append_assoc]
    rfl

/-- A run that completes and resumes nothing has requested all of its batches in order. -/
theorem requests_of_completed {result : CompletedRun}
    (completed : (run.execute tree nodes).2 = .ok (.completed result))
    (notResumed : result.resumedBatches = 0) :
    (run.execute tree nodes).1.requests = (run.batches nodes).map run.request := by
  rw [resumedBatches_of_completed completed] at notResumed
  rcases processed_of_completed completed with
    ⟨prepared, last, saved, -, -, processed, -, reached, -⟩
  rw [reached, resumed_afterResult] at notResumed
  rw [reached, requests_afterResult, processed.requests notResumed]
  rfl

/-- The requests of a run that completes and resumes nothing are numbered from 1, and the nodes in
their messages divide the nodes of the run. -/
theorem divides_of_completed {result : CompletedRun}
    (completed : (run.execute tree nodes).2 = .ok (.completed result))
    (notResumed : result.resumedBatches = 0) :
    (run.execute tree nodes).1.requests.map LocalizationRequest.batch =
        List.range' 1 result.totalBatches ∧
      ∃ parts, NodeMap.Divides run.options.batchSize parts nodes.withoutSources ∧
        (run.execute tree nodes).1.requests.map LocalizationRequest.nodes? = parts.map some := by
  rw [requests_of_completed completed notResumed]
  refine ⟨?_, (run.batches nodes).map Batch.nodes, Batch.divides_partition _ _, ?_⟩
  · rw [totalBatches_of_completed completed, List.map_map]
    exact map_index_batches run nodes
  · rw [List.map_map, List.map_map]
    exact List.map_congr_left fun batch member => nodes?_request member

/-- A run with two nodes in a batch. -/
def pairedRun : LocalizationRun :=
  replying steadyReplies { sampleOptions with batchSize := 2 } (sampleDirs "pack") .never

set_option maxRecDepth 100000 in
/-- Three nodes are sent in two requests. -/
theorem divides_of_pairedRun : ∃ result,
    (pairedRun.execute newTree threeNodes).2 = .ok (.completed result) ∧
      result.totalBatches = 2 ∧
      (pairedRun.execute newTree threeNodes).1.requests.map LocalizationRequest.batch = [1, 2] ∧
      ∃ parts, NodeMap.Divides 2 parts threeNodes.withoutSources ∧
        (pairedRun.execute newTree threeNodes).1.requests.map LocalizationRequest.nodes? =
          parts.map some := by
  have read : ReplyObject.read (Json.compact (.object [("Blur", .null)])) =
      .ok (.ofList [("Blur", .null)]) := by decide +kernel
  have possible : CanSave pairedRun threeNodes newTree := ⟨⟨_, _, rfl⟩, by decide +kernel⟩
  have answers : ∀ batch ∈ pairedRun.batches threeNodes, pairedRun.Answers batch :=
    fun _ _ _ => ⟨_, _, rfl, read⟩
  have calm : ¬pairedRun.Panics newTree threeNodes := by
    apply not_panics_of_untold
    rintro batch - tree reply ⟨⟩
    rfl
  rcases completes possible (fun _ _ _ writable => writable) answers calm rfl with
    ⟨result, completed⟩
  have total : result.totalBatches = 2 := by
    rw [totalBatches_of_completed completed]
    decide +kernel
  have notResumed := resumedBatches_eq_zero rfl completed
  have divides := divides_of_completed completed notResumed
  rw [total] at divides
  exact ⟨result, completed, total, divides⟩

end LocalizationRun

end NodeLocale
