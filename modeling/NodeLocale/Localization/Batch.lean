import NodeLocale.Schema

/-!
# Batches

A run translates the nodes in batches of a given size. A batch size of zero counts as one.
-/

namespace NodeLocale

/-- Nodes that are translated together. -/
structure Batch where
  /-- The position among the batches, counted from 1. -/
  index : Nat
  nodes : NodeMap
deriving DecidableEq

namespace Batch

/-- Cuts a list into slices of a given length; the last one may be shorter. -/
def slices {α : Type} (size : Nat) : List α → List (List α)
  | [] => []
  | item :: rest =>
    (item :: rest.take (size - 1)) :: slices size (rest.drop (size - 1))
termination_by items => items.length
decreasing_by
  simp only [List.length_drop, List.length_cons]
  omega

theorem flatten_slices {α : Type} (size : Nat) (items : List α) :
    (slices size items).flatten = items := by
  fun_induction slices size items with
  | case1 => rfl
  | case2 item rest ih => simp [ih]

theorem length_le_of_mem_slices {α : Type} {size : Nat} {items slice : List α}
    (member : slice ∈ slices size items) : slice.length ≤ max size 1 := by
  fun_induction slices size items with
  | case1 => simp at member
  | case2 item rest ih =>
    rcases List.mem_cons.1 member with rfl | member
    · simp
      omega
    · exact ih member

def partition (size : Nat) (nodes : NodeMap) : List Batch :=
  (slices size nodes.entries).mapIdx fun position slice => ⟨position + 1, .ofList slice⟩

def nodeNames (batch : Batch) : List String := batch.nodes.keys

end Batch

end NodeLocale
