import NodeLocale.Json.Printer
import NodeLocale.Proofs.Reconcile.DocumentOrder
import NodeLocale.Proofs.Reconcile.Shape

/-!
# What repair takes from a candidate

A candidate is any object. Repair keeps the nodes and fields of the source and takes from the
candidate no more than titles and labels: a text as it is, and for a label also a number or a truth
value as its text. Whatever else the candidate has there, or does not have, is filled from the
source: a node as a whole where the candidate has no object, a title by the title of the source, and
a label by the key of its field.
-/

namespace NodeLocale

/-- Whether a value cannot stand for a label. -/
inductive Json.NoLabel : Json → Prop
  | null : NoLabel .null
  | array (items : List Json) : NoLabel (.array items)
  | object (members : List (String × Json)) : NoLabel (.object members)

namespace JsonObject

/-- Whether a candidate has an object for a node. -/
def HasObject (candidate : JsonObject) (node : String) : Prop :=
  ∃ members, candidate.get? node = some (.object members)

/-- What a candidate has for a field, at the same node, section and key. -/
def valueAt? (candidate : JsonObject) (field : FieldRef) : Option Json :=
  ((candidate.get? field.node).bind (Json.member? field.part.name)).bind (Json.member? field.key)

theorem valueAt?_of_object {candidate : JsonObject} {field : FieldRef}
    {members : List (String × Json)}
    (given : candidate.get? field.node = some (.object members)) :
    candidate.valueAt? field = Repair.given? (.object members) field.part field.key := by
  rw [valueAt?, given]
  rfl

end JsonObject

/-- The label of a field, from what a candidate has for it. -/
inductive LabelFrom (key : String) : Option Json → String → Prop
  | text (label : String) : LabelFrom key (some (.string label)) label
  | number (value : JsonNumber) : LabelFrom key (some (.number value)) (Json.number value).compact
  | bool (value : Bool) : LabelFrom key (some (.bool value)) (Json.bool value).compact
  | unusable {value : Json} (noLabel : value.NoLabel) : LabelFrom key (some value) key
  | absent : LabelFrom key none key

/-- The title of a node, from what a candidate has for it. -/
inductive TitleFrom (source : String) : Option Json → String → Prop
  | text (title : String) : TitleFrom source (some (.string title)) title
  | kept {given : Option Json} (untitled : ∀ title, given ≠ some (.string title)) :
      TitleFrom source given source

/-- The passes that repair a candidate. -/
inductive RepairPass
  /-- The repair of one batch. -/
  | batch
  /-- The validation of the merged result. -/
  | final
deriving DecidableEq

namespace RepairPass

variable {pass : RepairPass} {source : NodeMap} {candidate : JsonObject} {node : String}
  {schema : NodeSchema} {members : List (String × Json)}

def run : RepairPass → NodeMap → JsonObject → Reconciled
  | batch => reconcileBatch
  | final => finalValidation

/-- The members without which a pass does not take a node of a candidate. -/
def required : RepairPass → List String
  | batch => []
  | final => Repair.requiredMembers

/-- The required members that a node of a candidate lacks. -/
def missing (pass : RepairPass) (members : List (String × Json)) : List String :=
  pass.required.filter fun name => (Entries.find? name members).isNone

/-- What is to be done with a node, from what a candidate has for it. -/
def verdict : RepairPass → Option Json → Repair.Verdict
  | batch => Repair.batchVerdict
  | final => Repair.finalVerdict

theorem run_eq (pass : RepairPass) (source : NodeMap) (candidate : JsonObject) :
    pass.run source candidate = Repair.reconcileBy pass.verdict source candidate := by
  cases pass <;> rfl

theorem verdict_of_not_hasObject (noObject : ¬ candidate.HasObject node) :
    pass.verdict (candidate.get? node) = .untranslated := by
  rw [JsonObject.HasObject, not_exists] at noObject
  cases given : candidate.get? node with
  | none => cases pass <;> rfl
  | some value =>
    cases value with
    | object members => exact absurd given (noObject members)
    | _ => cases pass <;> rfl

theorem verdict_of_missing (lacking : pass.missing members ≠ []) :
    pass.verdict (some (.object members)) = .incomplete (pass.missing members) := by
  cases pass with
  | batch => exact absurd rfl lacking
  | final => exact if_neg fun empty => lacking (List.isEmpty_iff.1 empty)

theorem verdict_of_complete (complete : pass.missing members = []) :
    pass.verdict (some (.object members)) = .usable (.object members) := by
  cases pass with
  | batch => rfl
  | final => exact if_pos (List.isEmpty_iff.2 complete)

theorem get?_nodes_run (pass : RepairPass) (source : NodeMap) (candidate : JsonObject)
    (node : String) :
    (pass.run source candidate).nodes.get? node =
      (source.get? node).map (pass.verdict (candidate.get? node)).apply := by
  rw [run_eq, Repair.reconcileBy, OrderedMap.get?_mapValues]

/-- A node that a pass takes is repaired field by field. -/
theorem get?_nodes_of_complete (known : source.get? node = some schema)
    (given : candidate.get? node = some (.object members))
    (complete : pass.missing members = []) :
    (pass.run source candidate).nodes.get? node =
      some (Repair.repairedNode schema (.object members)) := by
  rw [get?_nodes_run, known, given, verdict_of_complete complete]
  rfl

theorem get?_fieldsAt_of_complete {field : FieldRef} (known : field ∈ source.fieldRefs)
    (given : candidate.get? field.node = some (.object members))
    (complete : pass.missing members = []) :
    ((pass.run source candidate).nodes.fieldsAt field.node field.part).get? field.key =
      some (Repair.repairedLabel field.key (candidate.valueAt? field)) := by
  rcases NodeMap.exists_of_mem_keys_fieldsAt (NodeMap.mem_fieldRefs.1 known) with
    ⟨schema, member, present⟩
  rcases OrderedMap.mem_keys_iff_exists.1 present with ⟨label, held⟩
  have repaired := get?_nodes_of_complete (OrderedMap.get?_eq_some_iff.2 member) given complete
  rw [NodeMap.fieldsAt_of_mem (OrderedMap.get?_eq_some_iff.1 repaired), Repair.repairedNode,
    NodeSchema.fields_withFields, OrderedMap.get?_mapValues, held, Option.map_some,
    JsonObject.valueAt?_of_object given]

end RepairPass

namespace Repair

theorem labelFrom_repairedLabel (key : String) (given : Option Json) :
    LabelFrom key given (repairedLabel key given) := by
  cases given with
  | none => exact .absent
  | some value =>
    cases value with
    | null => exact .unusable .null
    | bool flag =>
      have text : repairedLabel key (some (.bool flag)) = (Json.bool flag).compact := by
        cases flag <;> rfl
      rw [text]
      exact .bool flag
    | number value =>
      have text : (Json.number value).compact = value.text := by
        simp [Json.compact, Json.compactChars]
      rw [repairedLabel, ← text]
      exact .number value
    | string label => exact .text label
    | array items => exact .unusable (.array items)
    | object members => exact .unusable (.object members)

theorem titleFrom_repairedTitle (schema : NodeSchema) (candidate : Json) :
    TitleFrom schema.title (candidate.member? "title") (repairedTitle schema candidate) := by
  rw [repairedTitle]
  split
  · rename_i title found
    rw [found]
    exact .text title
  · rename_i untitled
    exact .kept untitled

/-! ### The repaired nodes -/

/-- Whether node maps differ in titles and labels only, and in these as far as a candidate has
something to take for them. -/
structure FilledFrom (source : NodeMap) (candidate : JsonObject) (filled : NodeMap) : Prop where
  shape : filled.shape = source.shape
  sourceFile : ∀ node schema repaired, (node, schema) ∈ source.entries →
    (node, repaired) ∈ filled.entries → repaired.sourceFile = schema.sourceFile
  untranslated : ∀ node schema, (node, schema) ∈ source.entries → ¬ candidate.HasObject node →
    filled.get? node = some schema
  title : ∀ node schema members, (node, schema) ∈ source.entries →
    candidate.get? node = some (.object members) →
      ∃ repaired, filled.get? node = some repaired ∧
        TitleFrom schema.title (Entries.find? "title" members) repaired.title
  label : ∀ field ∈ source.fieldRefs, candidate.HasObject field.node →
    ∃ label, (filled.fieldsAt field.node field.part).get? field.key = some label ∧
      LabelFrom field.key (candidate.valueAt? field) label

theorem filledFrom_reconcileBatch (source : NodeMap) (candidate : JsonObject) :
    FilledFrom source candidate (reconcileBatch source candidate).nodes := by
  constructor
  case shape => exact shape_reconcileBy batchVerdict source candidate
  case sourceFile =>
    intro node schema repaired member repairedMember
    have found := OrderedMap.get?_eq_some_iff.2 repairedMember
    change (RepairPass.batch.run source candidate).nodes.get? node = some repaired at found
    rw [RepairPass.get?_nodes_run, OrderedMap.get?_eq_some_iff.2 member, Option.map_some,
      Option.some.injEq] at found
    rw [← found, sourceFile_apply]
  case untranslated =>
    intro node schema member noObject
    change (RepairPass.batch.run source candidate).nodes.get? node = some schema
    rw [RepairPass.get?_nodes_run, OrderedMap.get?_eq_some_iff.2 member,
      RepairPass.verdict_of_not_hasObject noObject]
    rfl
  case title =>
    intro node schema members member given
    have known := OrderedMap.get?_eq_some_iff.2 member
    have complete : RepairPass.batch.missing members = [] := rfl
    refine ⟨_, RepairPass.get?_nodes_of_complete known given complete, ?_⟩
    exact titleFrom_repairedTitle schema (.object members)
  case label =>
    rintro field known ⟨members, given⟩
    have complete : RepairPass.batch.missing members = [] := rfl
    refine ⟨_, RepairPass.get?_fieldsAt_of_complete known given complete, ?_⟩
    exact labelFrom_repairedLabel field.key (candidate.valueAt? field)

end Repair

end NodeLocale
