import Mathlib.Logic.Basic
import NodeLocale.NodeDiff
import NodeLocale.Proofs.Basic
import NodeLocale.Proofs.Names.NormalForms

/-!
# Added nodes are added once

A node is compared by the base name of its key, which is made of the normal form alone. So where
normal forms are fixed, as they are by the phrases that are there without a configuration, a node
that is kept under its normal name is known by every name with this normal form, and what was added
is not added again.
-/

namespace NodeLocale

/-! ### Base names -/

namespace NameNormalizer

theorem FixesNormalForms.baseName_normalize {normalizer : NameNormalizer}
    (fixed : normalizer.FixesNormalForms) (name : String) :
    normalizer.baseName (normalizer.normalize name) = normalizer.baseName name := by
  rw [baseName, baseName, fixed name]

end NameNormalizer

/-! ### Comparisons -/

namespace NodeDiff

variable {normalizer : NameNormalizer} {older newer : JsonObject} {entry : String × Json}

theorem mem_added_iff : entry ∈ (between normalizer older newer).added.entries ↔
    entry ∈ newer.entries ∧ normalizer.baseName entry.1 ∉ baseNames normalizer older := by
  simp [between, OrderedMap.filter]

theorem mem_keys_added_iff {name : String} : name ∈ (between normalizer older newer).added.keys ↔
    name ∈ newer.keys ∧ normalizer.baseName name ∉ baseNames normalizer older := by
  simp [OrderedMap.keys, mem_added_iff]

theorem added_sublist (normalizer : NameNormalizer) (older newer : JsonObject) :
    (between normalizer older newer).added.entries.Sublist newer.entries :=
  List.filter_sublist

theorem mem_keys_addedNormalized {key : String} :
    key ∈ (between normalizer older newer).addedNormalized.keys ↔
      ∃ entry ∈ (between normalizer older newer).added.entries,
        normalizer.normalize entry.1 = key := by
  rw [between, OrderedMap.mem_keys_ofList]
  simp

/-- Nothing is added where every base name is known. -/
theorem between_eq_empty
    (known : ∀ entry ∈ newer.entries, normalizer.baseName entry.1 ∈ baseNames normalizer older) :
    between normalizer older newer = ⟨∅, ∅⟩ := by
  have none : newer.filter (fun name _ =>
      !(baseNames normalizer older).contains (normalizer.baseName name)) = ∅ := by
    apply OrderedMap.ext
    apply List.filter_eq_nil_iff.2
    intro entry member
    simp [known entry member]
  rw [between, none]
  rfl

/-- What was added is known afterwards, though it is kept under its normal names. -/
theorem baseName_mem_of_kept (fixed : normalizer.FixesNormalForms)
    (member : entry ∈ newer.entries) :
    normalizer.baseName entry.1 ∈ baseNames normalizer
      (older.insertMany (between normalizer older newer).addedNormalized.entries) := by
  rw [baseNames, List.mem_map]
  by_cases known : normalizer.baseName entry.1 ∈ baseNames normalizer older
  · rcases List.mem_map.1 known with ⟨key, listed, same⟩
    exact ⟨key, OrderedMap.mem_keys_insertMany.2 (.inl listed), same⟩
  · refine ⟨normalizer.normalize entry.1, ?_, fixed.baseName_normalize entry.1⟩
    apply OrderedMap.mem_keys_insertMany.2
    right
    apply mem_keys_addedNormalized.2
    exact ⟨entry, mem_added_iff.2 ⟨member, known⟩, rfl⟩

theorem added_xor_known (member : entry ∈ newer.entries) :
    Xor (entry ∈ (between normalizer older newer).added.entries)
      (∃ key ∈ older.keys, normalizer.baseName key = normalizer.baseName entry.1) := by
  rw [← List.mem_map, mem_added_iff, xor_def]
  by_cases known : normalizer.baseName entry.1 ∈ baseNames normalizer older
  · right
    exact ⟨known, fun added => added.2 known⟩
  · left
    exact ⟨⟨member, known⟩, known⟩

/-- Each node of the newer artifact is either added, with its data and in its order, or known by its
base name. Normal names are known by the base names of the names that they come from, and where the
added nodes are kept under them nothing is added again. -/
theorem converges (older newer : JsonObject) :
    (∀ entry ∈ newer.entries,
        Xor (entry ∈ (between .standard older newer).added.entries)
          (∃ key ∈ older.keys, NameNormalizer.standard.baseName key =
            NameNormalizer.standard.baseName entry.1)) ∧
      (between .standard older newer).added.entries.Sublist newer.entries ∧
      (∀ name, NameNormalizer.standard.baseName (NameNormalizer.standard.normalize name) =
        NameNormalizer.standard.baseName name) ∧
      between .standard
        (older.insertMany (between .standard older newer).addedNormalized.entries) newer =
          ⟨∅, ∅⟩ := by
  have fixed := NameNormalizer.fixesNormalForms_standard
  refine ⟨?_, added_sublist _ older newer, fixed.baseName_normalize, ?_⟩
  · intro entry member
    exact added_xor_known member
  · apply between_eq_empty
    intro entry member
    exact baseName_mem_of_kept fixed member

end NodeDiff

end NodeLocale
