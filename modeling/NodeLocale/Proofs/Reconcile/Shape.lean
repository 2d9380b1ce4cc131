import NodeLocale.Reconcile.Glossary
import NodeLocale.Reconcile.Repair

/-!
# The shape of reconciled node maps

The shape of a node map is what a translator must not touch: the node keys and, inside every
node, the keys of its three sections, all in order. Repair and the glossary keep the shape of the
source whatever the candidate is. A node map that has the shape of its source already passes final
validation without a change and without an entry in the log.
-/

namespace NodeLocale

namespace NodeSchema

/-- The keys of the fields of a section, in order. -/
def fieldKeys (schema : NodeSchema) (part : FieldSection) : List String :=
  (schema.fields part).keys

@[simp]
theorem fields_withFields (schema : NodeSchema) (fields : FieldSection → FieldMap)
    (part : FieldSection) : (schema.withFields fields).fields part = fields part := by
  cases part <;> rfl

@[simp]
theorem fields_withoutSource (schema : NodeSchema) (part : FieldSection) :
    schema.withoutSource.fields part = schema.fields part := by
  cases part <;> rfl

/-- A schema is its title, its sections and its source. -/
theorem ext_fields {left right : NodeSchema} (title : left.title = right.title)
    (fields : ∀ part, left.fields part = right.fields part)
    (sourceFile : left.sourceFile = right.sourceFile) : left = right := by
  cases left
  cases right
  simp only [mk.injEq]
  exact ⟨title, fields .inputs, fields .widgets, fields .outputs, sourceFile⟩

end NodeSchema

namespace NodeMap

/-- The node keys together with the field keys of every section, in order. -/
def shape (nodes : NodeMap) : List (String × (FieldSection → List String)) :=
  nodes.entries.map fun entry => (entry.1, entry.2.fieldKeys)

theorem shape_mapValues {transform : String → NodeSchema → NodeSchema} {nodes : NodeMap}
    (kept : ∀ node schema, (transform node schema).fieldKeys = schema.fieldKeys) :
    NodeMap.shape (nodes.mapValues transform) = nodes.shape := by
  simp [shape, OrderedMap.mapValues, kept]

theorem keys_eq_of_shape {left right : NodeMap} (same : left.shape = right.shape) :
    left.keys = right.keys := by
  have firsts := congrArg (List.map Prod.fst) same
  simpa only [shape, OrderedMap.keys, List.map_map, Function.comp_def] using firsts

/-- Nodes of equal shape have the same fields under the same key. -/
theorem fieldKeys_eq_of_shape {left right : NodeMap} (same : left.shape = right.shape)
    {node : String} {schema other : NodeSchema} (first : (node, schema) ∈ left.entries)
    (second : (node, other) ∈ right.entries) : schema.fieldKeys = other.fieldKeys := by
  have present : (node, schema.fieldKeys) ∈ right.shape :=
    same ▸ List.mem_map_of_mem first
  obtain ⟨entry, member, equal⟩ := List.mem_map.1 present
  rw [Prod.mk.injEq] at equal
  obtain ⟨sameNode, sameKeys⟩ := equal
  have found := OrderedMap.get?_eq_some_iff.2 second
  rw [OrderedMap.get?_eq_some_iff.2 (sameNode ▸ member : (node, entry.2) ∈ right.entries),
    Option.some.injEq] at found
  rw [← sameKeys, found]

theorem shape_withoutSources (nodes : NodeMap) : nodes.withoutSources.shape = nodes.shape := by
  refine shape_mapValues fun node schema => ?_
  funext part
  simp [NodeSchema.fieldKeys]

end NodeMap

namespace Repair

theorem fieldKeys_repairedNode (source : NodeSchema) (candidate : Json) :
    (repairedNode source candidate).fieldKeys = source.fieldKeys := by
  funext part
  simp only [NodeSchema.fieldKeys, repairedNode, NodeSchema.fields_withFields,
    OrderedMap.keys_mapValues]

theorem fieldKeys_apply (verdict : Verdict) (source : NodeSchema) :
    (verdict.apply source).fieldKeys = source.fieldKeys := by
  cases verdict with
  | untranslated => rfl
  | incomplete missing => rfl
  | usable candidate => exact fieldKeys_repairedNode source candidate

/-- Repair keeps the shape of the source, whatever is made of the candidate. -/
theorem shape_reconcileBy (verdict : Option Json → Verdict) (source : NodeMap)
    (candidate : JsonObject) :
    NodeMap.shape (reconcileBy verdict source candidate).nodes = source.shape :=
  NodeMap.shape_mapValues fun _ schema => fieldKeys_apply _ schema

end Repair

/-- The glossary keeps the shape of what it is applied to. -/
theorem Glossary.shape_onNodes (glossary : Glossary) (nodes : NodeMap) :
    (glossary.onNodes nodes).shape = nodes.shape := by
  refine NodeMap.shape_mapValues fun node schema => ?_
  funext part
  simp only [NodeSchema.fieldKeys, onSchema, NodeSchema.fields_withFields,
    OrderedMap.keys_mapValues]

/-! ### Validating what has the shape of its source -/

namespace Repair

variable {source repaired : NodeSchema}

theorem given?_toJson (repaired : NodeSchema) (part : FieldSection) (key : String) :
    given? repaired.toJson part key = ((repaired.fields part).get? key).map .string := by
  have member : repaired.toJson.member? part.name =
      some (NodeSchema.fieldsToJson (repaired.fields part)) := by
    cases part <;> rfl
  rw [given?, member]
  exact Entries.find?_map (fun _ label => Json.string label) key (repaired.fields part).entries

/-- A node with the fields of its source is repaired to itself. -/
theorem repairedNode_toJson (sameKeys : repaired.fieldKeys = source.fieldKeys)
    (sameSource : repaired.sourceFile = source.sourceFile) :
    repairedNode source repaired.toJson = repaired := by
  refine NodeSchema.ext_fields rfl (fun part => ?_) sameSource.symm
  have keys : (repaired.fields part).keys = (source.fields part).keys := congrFun sameKeys part
  rw [repairedNode, NodeSchema.fields_withFields]
  refine OrderedMap.eq_of_keys_of_get? (by rw [OrderedMap.keys_mapValues, keys]) ?_
  intro key present
  rw [OrderedMap.keys_mapValues] at present
  obtain ⟨old, sourceLabel⟩ := OrderedMap.mem_keys_iff_exists.1 present
  obtain ⟨label, newLabel⟩ := OrderedMap.mem_keys_iff_exists.1 (keys ▸ present)
  rw [OrderedMap.get?_mapValues, sourceLabel, given?_toJson, newLabel]
  rfl

theorem nodeIssues_toJson (node : String) (sameKeys : repaired.fieldKeys = source.fieldKeys) :
    nodeIssues node source repaired.toJson = [] := by
  have noIssue : ∀ part, sectionIssues node source repaired.toJson part = [] := by
    intro part
    have keys : (repaired.fields part).keys = (source.fields part).keys := congrFun sameKeys part
    refine List.filterMap_eq_nil_iff.2 fun key present => ?_
    obtain ⟨label, found⟩ := OrderedMap.mem_keys_iff_exists.1 (keys ▸ present)
    rw [given?_toJson, found]
    rfl
  have noTitleIssue : titleIssues node repaired.toJson = [] := rfl
  simp [nodeIssues, noTitleIssue, noIssue]

/-- A written schema has all members that validation asks for. -/
theorem finalVerdict_toJson (repaired : NodeSchema) :
    finalVerdict (some repaired.toJson) = .usable repaired.toJson := rfl

end Repair

/-- Repair of a node map that has the shape and the sources of its source changes nothing and
records nothing, if the verdict takes written schemas. -/
theorem Repair.reconcileBy_toJsonObject {verdict : Option Json → Verdict}
    (takes : ∀ schema : NodeSchema, verdict (some schema.toJson) = .usable schema.toJson)
    {source repaired : NodeMap} (sameShape : repaired.shape = source.shape)
    (sameSources : ∀ node schema other, (node, schema) ∈ repaired.entries →
      (node, other) ∈ source.entries → schema.sourceFile = other.sourceFile) :
    reconcileBy verdict source repaired.toJsonObject = ⟨repaired, []⟩ := by
  have keys : repaired.keys = source.keys := NodeMap.keys_eq_of_shape sameShape
  -- Every source node meets the repaired node of its key, written as an object.
  have met : ∀ node other, (node, other) ∈ source.entries → ∃ schema,
      (node, schema) ∈ repaired.entries ∧ schema.fieldKeys = other.fieldKeys ∧
        repaired.toJsonObject.get? node = some schema.toJson := by
    intro node other member
    have present : node ∈ repaired.keys := keys ▸ List.mem_map_of_mem (f := Prod.fst) member
    obtain ⟨schema, found⟩ := OrderedMap.mem_keys_iff_exists.1 present
    have repairedMember := OrderedMap.get?_eq_some_iff.1 found
    refine ⟨schema, repairedMember,
      NodeMap.fieldKeys_eq_of_shape sameShape repairedMember member, ?_⟩
    rw [NodeMap.toJsonObject, OrderedMap.get?_mapValues, found, Option.map_some]
  have nodes : (reconcileBy verdict source repaired.toJsonObject).nodes = repaired := by
    refine OrderedMap.eq_of_keys_of_get? ?_ fun node present => ?_
    · rw [reconcileBy, OrderedMap.keys_mapValues, keys]
    · rw [reconcileBy, OrderedMap.keys_mapValues] at present
      obtain ⟨other, found⟩ := OrderedMap.mem_keys_iff_exists.1 present
      have member := OrderedMap.get?_eq_some_iff.1 found
      obtain ⟨schema, repairedMember, sameKeys, written⟩ := met node other member
      rw [reconcileBy, OrderedMap.get?_mapValues, found, Option.map_some, written, takes,
        Verdict.apply,
        repairedNode_toJson sameKeys (sameSources node schema other repairedMember member),
        OrderedMap.get?_eq_some_iff.2 repairedMember]
  have log : (reconcileBy verdict source repaired.toJsonObject).log = [] := by
    rw [reconcileBy]
    refine List.flatMap_eq_nil_iff.2 fun entry member => ?_
    obtain ⟨schema, _, sameKeys, written⟩ := met entry.1 entry.2 member
    rw [written, takes]
    exact nodeIssues_toJson entry.1 sameKeys
  cases validated : reconcileBy verdict source repaired.toJsonObject
  simp_all

theorem Repair.sourceFile_apply (verdict : Verdict) (source : NodeSchema) :
    (verdict.apply source).sourceFile = source.sourceFile := by
  cases verdict <;> rfl

theorem Repair.sourceFile_reconcileBy {verdict : Option Json → Verdict} {source : NodeMap}
    {candidate : JsonObject} {node : String} {schema other : NodeSchema}
    (repaired : (node, schema) ∈ (reconcileBy verdict source candidate).nodes.entries)
    (original : (node, other) ∈ source.entries) : schema.sourceFile = other.sourceFile := by
  have found := OrderedMap.get?_eq_some_iff.2 repaired
  rw [reconcileBy, OrderedMap.get?_mapValues, OrderedMap.get?_eq_some_iff.2 original,
    Option.map_some, Option.some.injEq] at found
  rw [← found, sourceFile_apply]

/-- Final validation leaves repaired nodes as they are. -/
theorem finalValidation_reconcileBatch (source : NodeMap) (candidate : JsonObject) :
    finalValidation source (reconcileBatch source candidate).nodes.toJsonObject =
      ⟨(reconcileBatch source candidate).nodes, []⟩ :=
  Repair.reconcileBy_toJsonObject Repair.finalVerdict_toJson
    (Repair.shape_reconcileBy Repair.batchVerdict source candidate)
    fun _ _ _ repaired original => Repair.sourceFile_reconcileBy repaired original

end NodeLocale
