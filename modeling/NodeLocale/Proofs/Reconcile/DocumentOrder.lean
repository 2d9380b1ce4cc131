import Mathlib.Data.List.Nodup
import NodeLocale.Proofs.Reconcile.Links

/-!
# Document order

The places of a node map stand in a fixed order: the nodes in theirs, and behind each node the
fields of its sections. No place occurs twice. An issue that arises while node maps are reconciled
is about one place, and a log that goes through a node map tells of each node what it tells of it
alone.
-/

namespace NodeLocale

universe u v w

/-! ### Lists that go through a map -/

section Listing

variable {ι : Type u} {κ : Type v} {γ : Type w}

theorem nodup_flatMap_of_subject (index : ι → κ) (subject : γ → κ) {items : List ι}
    {list : ι → List γ} (own : ∀ item, ∀ listed ∈ list item, subject listed = index item)
    (each : ∀ item ∈ items, (list item).Nodup) (distinct : (items.map index).Nodup) :
    (items.flatMap list).Nodup := by
  rw [List.nodup_flatMap]
  refine ⟨each, (List.pairwise_map.1 distinct).imp ?_⟩
  intro first second different listed inFirst inSecond
  apply different
  rw [← own first listed inFirst, own second listed inSecond]

/-- If whatever is listed for an item has the mark of the item, the marks stand in order. -/
theorem sublist_map_filterMap {list? : ι → Option γ} {mark : γ → κ} {expected : ι → κ}
    (own : ∀ item listed, list? item = some listed → mark listed = expected item)
    (items : List ι) :
    ((items.filterMap list?).map mark).Sublist (items.map expected) := by
  induction items with
  | nil => exact .slnil
  | cons item rest ih =>
    cases listed : list? item with
    | none =>
      rw [List.filterMap_cons_none listed]
      exact ih.cons _
    | some found =>
      rw [List.filterMap_cons_some listed, List.map_cons, List.map_cons, own item found listed]
      exact ih.cons_cons _

/-- Whatever a list that goes through a map tells of one key, the entry of that key contributes. -/
theorem Entries.filter_flatMap [DecidableEq κ] (list : κ → ι → List γ) (subject : γ → Option κ)
    {entries : List (κ × ι)}
    (own : ∀ key value, ∀ listed ∈ list key value, subject listed = some key)
    (distinct : (entries.map Prod.fst).Nodup) (key : κ) :
    (entries.flatMap fun entry => list entry.1 entry.2).filter
        (fun listed => subject listed = some key) =
      ((find? key entries).map (list key)).getD [] := by
  induction entries with
  | nil => rfl
  | cons entry rest ih =>
    obtain ⟨first, value⟩ := entry
    rw [List.map_cons, List.nodup_cons] at distinct
    rw [List.flatMap_cons, List.filter_append, ih distinct.2, find?]
    -- Of the first entry all is about the key or nothing is, and no later entry has its key.
    by_cases same : first = key
    · subst same
      have absent : find? first rest = none := find?_eq_none_iff.2 distinct.1
      have all : (list first value).filter (fun listed => subject listed = some first) =
          list first value := by
        rw [List.filter_eq_self]
        intro listed member
        simp [own first value listed member]
      simp [absent, all]
    · have none : (list first value).filter (fun listed => subject listed = some key) = [] := by
        rw [List.filter_eq_nil_iff]
        intro listed member
        simp [own first value listed member, same]
      simp [none, same]

end Listing

/-! ### Places -/

namespace NodeSchema

/-- The fields of a node in their order. -/
def fieldRefs (node : String) (schema : NodeSchema) : List FieldRef :=
  FieldSection.all.flatMap fun part => (schema.fields part).keys.map fun key => ⟨node, part, key⟩

theorem mem_fieldRefs {node : String} {schema : NodeSchema} {field : FieldRef} :
    field ∈ schema.fieldRefs node ↔
      field.node = node ∧ field.key ∈ (schema.fields field.part).keys := by
  simp only [fieldRefs, List.mem_flatMap, List.mem_map]
  constructor
  · rintro ⟨part, -, key, present, rfl⟩
    exact ⟨rfl, present⟩
  · rintro ⟨rfl, present⟩
    exact ⟨field.part, field.part.mem_all, field.key, present, rfl⟩

theorem nodup_fieldRefs (node : String) (schema : NodeSchema) :
    (schema.fieldRefs node).Nodup := by
  apply nodup_flatMap_of_subject id FieldRef.part
  · intro part field member
    rcases List.mem_map.1 member with ⟨key, -, rfl⟩
    rfl
  · intro part member
    refine (schema.fields part).distinct.map ?_
    intro first second same
    exact congrArg FieldRef.key same
  · decide

end NodeSchema

/-- Where in a node map an issue arises. -/
inductive NodeMap.Place
  /-- At a node as a whole or at its title. -/
  | node (key : String)
  | field (ref : FieldRef)
deriving DecidableEq

/-- The node at which a place is. -/
def NodeMap.Place.nodeKey : NodeMap.Place → String
  | node key => key
  | field ref => ref.node

namespace NodeMap

variable {nodes : NodeMap} {field : FieldRef}

/-- The fields of a node map in document order. -/
def fieldRefs (nodes : NodeMap) : List FieldRef :=
  nodes.entries.flatMap fun entry => entry.2.fieldRefs entry.1

/-- The places of a node map in document order. -/
def places (nodes : NodeMap) : List Place :=
  nodes.entries.flatMap fun entry => .node entry.1 :: (entry.2.fieldRefs entry.1).map .field

theorem mem_fieldRefs :
    field ∈ nodes.fieldRefs ↔ field.key ∈ (nodes.fieldsAt field.node field.part).keys := by
  simp only [fieldRefs, List.mem_flatMap, NodeSchema.mem_fieldRefs]
  constructor
  · rintro ⟨⟨node, schema⟩, member, rfl, present⟩
    rwa [fieldsAt_of_mem member]
  · intro present
    rcases exists_of_mem_keys_fieldsAt present with ⟨schema, member, held⟩
    exact ⟨(field.node, schema), member, rfl, held⟩

theorem nodup_fieldRefs (nodes : NodeMap) : nodes.fieldRefs.Nodup := by
  apply nodup_flatMap_of_subject Prod.fst FieldRef.node
  · exact fun entry field member => (NodeSchema.mem_fieldRefs.1 member).1
  · exact fun entry member => entry.2.nodup_fieldRefs entry.1
  · exact nodes.distinct

theorem nodup_places (nodes : NodeMap) : nodes.places.Nodup := by
  apply nodup_flatMap_of_subject Prod.fst Place.nodeKey
  · intro entry place member
    rcases List.mem_cons.1 member with rfl | member
    · rfl
    · rcases List.mem_map.1 member with ⟨field, present, rfl⟩
      exact (NodeSchema.mem_fieldRefs.1 present).1
  · intro entry member
    rw [List.nodup_cons]
    constructor
    · simp
    · exact (entry.2.nodup_fieldRefs entry.1).map fun first second same => Place.field.inj same
  · exact nodes.distinct

end NodeMap

/-! ### Issues -/

namespace Issue

/-- The place that an issue is about; a file that cannot be read has none. -/
def place? : Issue → Option NodeMap.Place
  | parseFailure .. => none
  | untranslatedNode node => some (.node node)
  | missingTitle node => some (.node node)
  | missingKey field => some (.field field)
  | unusableValue field _ => some (.field field)
  | incompleteNode node _ => some (.node node)
  | rekeyedEntry node part translated .. => some (.field ⟨node, part, translated⟩)
  | unmappedKey field => some (.field field)
  | ambiguousKey field _ => some (.field field)
  | glossaryOverride field .. => some (.field field)

theorem node?_eq (issue : Issue) : issue.node? = issue.place?.map NodeMap.Place.nodeKey := by
  cases issue <;> rfl

end Issue

/-- What a log says about a node. -/
def CorrectionLog.about (log : CorrectionLog) (node : String) : CorrectionLog :=
  log.filter fun issue => issue.node? = some node

end NodeLocale
