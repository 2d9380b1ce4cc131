import NodeLocale.Localization.Batch
import NodeLocale.Proofs.Reconcile.Shape

/-!
# Batches of a node map

The batches of a node map are its entries, cut into slices and numbered from 1. Since no key
occurs twice, a batch loses nothing by being a map of its own, and repairing the batches one by
one is repairing the whole map: nodes and log are the batches' nodes and logs in a row.
-/

namespace NodeLocale

namespace Batch

variable {size : Nat} {nodes : NodeMap}

theorem map_entries_partition (size : Nat) (nodes : NodeMap) :
    (partition size nodes).map (fun batch => batch.nodes.entries) =
      slices size nodes.entries := by
  have kept : ∀ slice ∈ slices size nodes.entries,
      (OrderedMap.ofList slice).entries = slice := by
    intro slice member
    have part : slice.Sublist nodes.entries := by
      have within := List.sublist_flatten_of_mem member
      rwa [flatten_slices] at within
    exact Entries.collect_of_nodup (nodes.distinct.sublist (part.map Prod.fst))
  apply List.ext_getElem
  · simp [partition]
  · intro position inMapped inSlices
    simp only [partition, List.getElem_map, List.getElem_mapIdx]
    exact kept _ (List.getElem_mem inSlices)

/-- The batches hold the nodes in their order. -/
theorem flatMap_entries_partition (size : Nat) (nodes : NodeMap) :
    (partition size nodes).flatMap (fun batch => batch.nodes.entries) = nodes.entries := by
  rw [List.flatMap_def, map_entries_partition, flatten_slices]

theorem mem_entries_of_mem_partition {batch : Batch} (member : batch ∈ partition size nodes)
    {entry : String × NodeSchema} (inBatch : entry ∈ batch.nodes.entries) :
    entry ∈ nodes.entries := by
  rw [← flatMap_entries_partition size nodes]
  exact List.mem_flatMap.2 ⟨batch, member, inBatch⟩

theorem get?_of_mem_partition {batch : Batch} (member : batch ∈ partition size nodes)
    {node : String} (inBatch : node ∈ batch.nodes.keys) :
    batch.nodes.get? node = nodes.get? node := by
  rcases OrderedMap.mem_keys_iff_exists.1 inBatch with ⟨schema, found⟩
  have inNodes := mem_entries_of_mem_partition member (OrderedMap.get?_eq_some_iff.1 found)
  rw [found, OrderedMap.get?_eq_some_iff.2 inNodes]

theorem ne_nil_of_mem_slices {α : Type} {items slice : List α}
    (member : slice ∈ slices size items) : slice ≠ [] := by
  fun_induction slices size items with
  | case1 => simp at member
  | case2 item rest ih =>
    rcases List.mem_cons.1 member with rfl | member
    · simp
    · exact ih member

/-- Only the last slice may be shorter than the others. -/
theorem length_of_mem_dropLast_slices {α : Type} {items slice : List α}
    (member : slice ∈ (slices size items).dropLast) : slice.length = max size 1 := by
  fun_induction slices size items with
  | case1 => simp at member
  | case2 item rest ih =>
    cases later : rest.drop (size - 1) with
    | nil => simp [later, slices] at member
    | cons next others =>
      have more : slices size (rest.drop (size - 1)) ≠ [] := by simp [later, slices]
      rw [List.dropLast_cons_of_ne_nil more] at member
      rcases List.mem_cons.1 member with rfl | member
      · have behind := congrArg List.length later
        rw [List.length_drop, List.length_cons] at behind
        rw [List.length_cons, List.length_take]
        omega
      · exact ih member

/-- Each batch but the last is full. -/
theorem size_of_mem_partition {batch : Batch} (member : batch ∈ partition size nodes) :
    1 ≤ batch.nodes.size ∧ batch.nodes.size ≤ max size 1 := by
  have slice : batch.nodes.entries ∈ slices size nodes.entries := by
    rw [← map_entries_partition]
    exact List.mem_map_of_mem member
  exact ⟨List.length_pos_iff.2 (ne_nil_of_mem_slices slice), length_le_of_mem_slices slice⟩

theorem size_of_mem_dropLast_partition {batch : Batch}
    (member : batch ∈ (partition size nodes).dropLast) : batch.nodes.size = max size 1 := by
  have slice : batch.nodes.entries ∈ (slices size nodes.entries).dropLast := by
    rw [← map_entries_partition, ← List.map_dropLast]
    exact List.mem_map_of_mem member
  exact length_of_mem_dropLast_slices slice

/-- The batches are numbered from 1. -/
theorem map_index_partition (size : Nat) (nodes : NodeMap) :
    (partition size nodes).map index = List.range' 1 (partition size nodes).length := by
  apply List.ext_getElem
  · simp
  · intro position inMapped inRange
    simp [partition, Nat.add_comm]

theorem nodup_index_partition (size : Nat) (nodes : NodeMap) :
    ((partition size nodes).map index).Nodup := by
  rw [map_index_partition]
  exact List.nodup_range'

end Batch

/-! ### Repairing batch by batch -/

/-- Repair looks only at what the candidate gives for the nodes of the source. -/
theorem reconcileBatch_congr {source : NodeMap} {left right : JsonObject}
    (agree : ∀ key ∈ source.keys, left.get? key = right.get? key) :
    reconcileBatch source left = reconcileBatch source right := by
  have same : ∀ entry ∈ source.entries, left.get? entry.1 = right.get? entry.1 :=
    fun entry member => agree entry.1 (List.mem_map_of_mem member)
  have nodes : (reconcileBatch source left).nodes = (reconcileBatch source right).nodes := by
    apply OrderedMap.ext
    refine List.map_congr_left fun entry member => ?_
    simp only [same entry member]
  have log : (reconcileBatch source left).log = (reconcileBatch source right).log := by
    refine congrArg List.flatten (List.map_congr_left fun entry member => ?_)
    simp only [same entry member]
  cases first : reconcileBatch source left
  cases second : reconcileBatch source right
  simp_all

/-- The nodes of the repaired batches are the repaired nodes. -/
theorem flatMap_reconcileBatch_nodes (size : Nat) (source : NodeMap) (candidate : JsonObject) :
    ((Batch.partition size source).flatMap fun batch =>
      (reconcileBatch batch.nodes candidate).nodes.entries) =
        (reconcileBatch source candidate).nodes.entries := by
  have whole := Batch.flatMap_entries_partition size source
  change _ = source.entries.map _
  rw [← whole, List.map_flatMap]
  rfl

/-- The logs of the repaired batches are the log of the repair. -/
theorem flatMap_reconcileBatch_log (size : Nat) (source : NodeMap) (candidate : JsonObject) :
    ((Batch.partition size source).flatMap fun batch =>
      (reconcileBatch batch.nodes candidate).log) = (reconcileBatch source candidate).log := by
  have whole := Batch.flatMap_entries_partition size source
  change _ = source.entries.flatMap _
  rw [← whole, List.flatMap_assoc]
  rfl

end NodeLocale
