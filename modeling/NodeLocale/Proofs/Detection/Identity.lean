import Mathlib.Algebra.BigOperators.Group.List.Basic
import NodeLocale.Proofs.Reconcile.Shape

/-!
# Labels that name primitive types

A label that names a primitive type is replaced by the key of its field. A schema in which no label
is to be replaced is left as it is, and a schema in which labels have been replaced is of this
kind, whether or not some of its keys are themselves names of primitive types.
-/

namespace NodeLocale

theorem OrderedMap.mapValues_eq_self {α β : Type} {transform : α → β → β} {map : OrderedMap α β}
    (same : ∀ entry ∈ map.entries, transform entry.1 entry.2 = entry.2) :
    map.mapValues transform = map := by
  apply ext
  apply Eq.trans (List.map_congr_left _) (List.map_id map.entries)
  intro entry member
  exact Prod.ext rfl (same entry member)

namespace NodeSchema

variable {primitive : List String} {schema : NodeSchema}

theorem fields_applyIdentity (primitive : List String) (schema : NodeSchema)
    (part : FieldSection) : (schema.applyIdentity primitive).fields part =
      (schema.fields part).mapValues (identityLabel primitive) := by
  rw [applyIdentity, fields_withFields]

theorem identityLabel_key (primitive : List String) (key : String) :
    identityLabel primitive key key = key := by
  simp [identityLabel]

/-- Whether no label names a primitive type, but for those that are the keys of their fields. -/
def Informative (primitive : List String) (schema : NodeSchema) : Prop :=
  ∀ part, ∀ field ∈ (schema.fields part).entries, field.2 ∈ primitive → field.2 = field.1

theorem informative_applyIdentity (primitive : List String) (schema : NodeSchema) :
    (schema.applyIdentity primitive).Informative primitive := by
  intro part field member named
  rw [fields_applyIdentity] at member
  rcases List.mem_map.1 member with ⟨own, -, rfl⟩
  by_cases primary : own.2 ∈ primitive
  · exact if_pos primary
  · simp only [identityLabel, if_neg primary] at named
    exact absurd named primary

theorem Informative.applyIdentity_eq (informative : schema.Informative primitive) :
    schema.applyIdentity primitive = schema := by
  refine ext_fields rfl ?_ rfl
  intro part
  rw [fields_applyIdentity]
  apply OrderedMap.mapValues_eq_self
  intro field member
  by_cases primary : field.2 ∈ primitive
  · rw [informative part field member primary, identityLabel_key]
  · rw [identityLabel, if_neg primary]

theorem Informative.identityChanges_eq (informative : schema.Informative primitive) :
    schema.identityChanges primitive = 0 := by
  apply List.sum_eq_zero
  intro changes member
  rcases List.mem_map.1 member with ⟨part, -, rfl⟩
  rw [identityChangesIn, List.countP_eq_zero]
  intro field listed changed
  rw [Bool.and_eq_true, decide_eq_true_iff, decide_eq_true_iff] at changed
  exact changed.2 (informative part field listed changed.1)

end NodeSchema

namespace NodeMap

/-- Replacing labels has nothing to do on nodes of which every one says something. -/
theorem identity_of_informative {primitive : List String} {nodes : NodeMap}
    (informative : ∀ key schema, nodes.get? key = some schema → schema.Informative primitive) :
    nodes.identityChanges primitive = 0 ∧ nodes.applyIdentity primitive = nodes := by
  have listed : ∀ node ∈ nodes.entries, node.2.Informative primitive := by
    intro node member
    exact informative node.1 node.2 (OrderedMap.get?_eq_some_iff.2 member)
  constructor
  · apply List.sum_eq_zero
    intro changes member
    rcases List.mem_map.1 member with ⟨schema, held, rfl⟩
    rcases List.mem_map.1 held with ⟨node, stored, rfl⟩
    exact (listed node stored).identityChanges_eq
  · apply OrderedMap.mapValues_eq_self
    intro node member
    exact (listed node member).applyIdentity_eq

end NodeMap

end NodeLocale
