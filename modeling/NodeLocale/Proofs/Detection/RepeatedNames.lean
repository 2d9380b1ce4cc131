import Mathlib.Logic.Function.Iterate
import NodeLocale.Proofs.Detection.RenamedOutputs

/-!
# Names that are given again

To rename outputs by a list of names never adds an output. If none is lost they keep their places,
so the same names given again change nothing. So however often outputs are renamed by one list, they
get their own keys back only if the list does not change them at all.
-/

namespace NodeLocale

open Script

namespace NodeClass

variable {names : List Expression} {outputs : FieldMap} {entries : List (String × String)}

theorem size_renameOutputs_le (names : List Expression) (outputs : FieldMap) :
    (renameOutputs outputs names).size ≤ outputs.size := by
  by_cases given : names = []
  · simp [given, renameOutputs]
  · rw [renameOutputs_of_given given]
    apply Nat.le_trans (OrderedMap.size_ofList_le _)
    rw [length_underNames]
    exact Nat.min_le_right _ _

/-- Outputs of which none is lost are renamed in their places. -/
theorem entries_renameOutputs (given : names ≠ [])
    (kept : (renameOutputs outputs names).size = outputs.size) :
    (renameOutputs outputs names).entries = underNames names outputs.entries := by
  rw [renameOutputs_of_given given] at kept ⊢
  apply Entries.collect_of_nodup
  apply OrderedMap.size_ofList_eq_iff.1
  apply Nat.le_antisymm (OrderedMap.size_ofList_le _)
  rw [kept, length_underNames]
  exact Nat.min_le_right _ _

theorem renamedKey_renamedKey (name : Expression) (key : String) :
    renamedKey name (renamedKey name key) = renamedKey name key := by
  cases name <;> rfl

theorem underNames_twice (names : List Expression) (entries : List (String × String)) :
    underNames names (underNames names entries) = underNames names entries := by
  induction names generalizing entries with
  | nil => rfl
  | cons name rest ih =>
    cases entries with
    | nil => rfl
    | cons entry others => simpa [underNames, renamedKey_renamedKey] using ih others

theorem underNames_eq_self
    (sameKeys : (underNames names entries).map Prod.fst = entries.map Prod.fst) :
    underNames names entries = entries := by
  induction names generalizing entries with
  | nil =>
    cases entries with
    | nil => rfl
    | cons entry others => simp [underNames] at sameKeys
  | cons name rest ih =>
    cases entries with
    | nil => rfl
    | cons entry others =>
      rw [underNames, List.zipWith_cons_cons, List.map_cons, List.map_cons,
        List.cons.injEq] at sameKeys
      rw [underNames, List.zipWith_cons_cons, ← underNames, ih sameKeys.2,
        Prod.ext_iff.2 ⟨sameKeys.1, rfl⟩]

theorem renameOutputs_twice (kept : (renameOutputs outputs names).size = outputs.size) :
    renameOutputs (renameOutputs outputs names) names = renameOutputs outputs names := by
  by_cases given : names = []
  · simp [given, renameOutputs]
  · rw [renameOutputs_of_given given (renameOutputs outputs names),
      entries_renameOutputs given kept, underNames_twice, ← renameOutputs_of_given given]

/-- Outputs that keep their keys when they are renamed are not changed. -/
theorem renameOutputs_eq_self (sameKeys : (renameOutputs outputs names).keys = outputs.keys) :
    renameOutputs outputs names = outputs := by
  by_cases given : names = []
  · simp [given, renameOutputs]
  · have kept : (renameOutputs outputs names).size = outputs.size := by
      simpa [OrderedMap.keys, OrderedMap.size] using congrArg List.length sameKeys
    rw [OrderedMap.keys, entries_renameOutputs given kept] at sameKeys
    rw [renameOutputs_of_given given, underNames_eq_self sameKeys, OrderedMap.ofList_entries]

theorem size_iterate_renameOutputs_le (times : Nat) (names : List Expression)
    (outputs : FieldMap) : ((renameOutputs · names)^[times] outputs).size ≤ outputs.size := by
  induction times with
  | zero => exact Nat.le_refl _
  | succ times ih =>
    rw [Function.iterate_succ_apply']
    exact Nat.le_trans (size_renameOutputs_le names _) ih

theorem iterate_renameOutputs (twice : renameOutputs (renameOutputs outputs names) names =
    renameOutputs outputs names) (times : Nat) :
    (renameOutputs · names)^[times + 1] outputs = renameOutputs outputs names := by
  induction times with
  | zero => rfl
  | succ times ih => rw [Function.iterate_succ_apply', ih, twice]

/-- Outputs that get their keys back by being renamed several times are not changed by it. -/
theorem renameOutputs_eq_self_of_iterate {times : Nat}
    (sameKeys : ((renameOutputs · names)^[times + 1] outputs).keys = outputs.keys) :
    renameOutputs outputs names = outputs := by
  have kept : (renameOutputs outputs names).size = outputs.size := by
    apply Nat.le_antisymm (size_renameOutputs_le names outputs)
    have all : ((renameOutputs · names)^[times + 1] outputs).size = outputs.size := by
      simpa [OrderedMap.keys, OrderedMap.size] using congrArg List.length sameKeys
    rw [← all, Function.iterate_succ_apply]
    exact size_iterate_renameOutputs_le times names _
  rw [iterate_renameOutputs (renameOutputs_twice kept)] at sameKeys
  exact renameOutputs_eq_self sameKeys

/-- Types that are taken for names as well leave their outputs as they are if those of them that
are texts are the keys of their outputs. -/
theorem renameOutputs_types_eq_self_iff {types : List Expression} :
    renameOutputs (outputsOfTypes types) types = outputsOfTypes types ↔
      ∀ (index : Nat) (text : String), types[index]? = some (.string text) →
        text = outputKey index := by
  by_cases given : types = []
  · simp [given, renameOutputs]
  constructor
  · intro same index text written
    have entries := entries_renameOutputs given (congrArg OrderedMap.size same)
    have listed : (outputsOfTypes types).entries[index]? = some (outputKey index, text) := by
      simp [entries_outputsOfTypes, written, Expression.label]
    have renamed := getElem?_underNames written listed
    rw [← entries, same, listed] at renamed
    exact (congrArg Prod.fst (Option.some.inj renamed)).symm
  · intro own
    rw [renameOutputs_of_given given, underNames_eq_self, OrderedMap.ofList_entries]
    rw [keys_underNames, List.take_length, entries_outputsOfTypes]
    apply List.ext_getElem?
    intro index
    cases written : types[index]? with
    | none => simp [keysOf, written]
    | some type =>
      cases type with
      | string text =>
        simp [keysOf, written, renamedKey, Expression.string?, own index text written]
      | name | tuple | list | dict | other =>
        simp [keysOf, written, renamedKey, Expression.string?]

end NodeClass

end NodeLocale
