import Mathlib.Data.List.Forall2
import NodeLocale.Proofs.Occurrences
import NodeLocale.Proofs.Reconcile.LogLines

/-!
# The glossary pass

A configuration dictates the label of a field by its key alone. Preserved keys are compared as they
are, preserved types and terms without regard to case, so all three may cover one key. Keys come
before types and types before terms, and of the terms that cover a key the last one counts.

What a pass does is settled field by field. A field that nothing covers, or whose label is the
dictated one already, stays as it is and is not recorded; any other field gets the dictated label
and one entry in the log. So the changed fields and the new entries correspond in document order,
and a second pass, which finds the dictated labels everywhere, has nothing to do.
-/

namespace NodeLocale

universe u v w

/-- If exactly the items whose subjects pass a test are listed, these subjects and what is listed
correspond in order. -/
theorem forall₂_filter_filterMap {ι : Type u} {κ : Type v} {γ : Type w} {test : κ → Bool}
    {subject : ι → κ} {list? : ι → Option γ} {relation : κ → γ → Prop} {items : List ι}
    (skips : ∀ item ∈ items, test (subject item) = false → list? item = none)
    (lists : ∀ item ∈ items, test (subject item) = true →
      ∃ listed, list? item = some listed ∧ relation (subject item) listed) :
    List.Forall₂ relation ((items.map subject).filter test) (items.filterMap list?) := by
  induction items with
  | nil => exact .nil
  | cons item rest ih =>
    rw [List.forall_mem_cons] at skips lists
    have others := ih skips.2 lists.2
    cases passes : test (subject item) with
    | false => simpa [passes, skips.1 passes] using others
    | true =>
      rcases lists.1 passes with ⟨listed, found, related⟩
      simpa [passes, found] using ⟨related, others⟩

/-! ### Labels in document order -/

namespace NodeMap

variable {nodes : NodeMap} {field : FieldRef} {label : String}

/-- The label of a field. -/
def label? (nodes : NodeMap) (field : FieldRef) : Option String :=
  (nodes.fieldsAt field.node field.part).get? field.key

/-- The fields in document order, each with its label. -/
def labelled (nodes : NodeMap) : List (FieldRef × String) :=
  nodes.entries.flatMap fun entry => FieldSection.all.flatMap fun part =>
    (entry.2.fields part).entries.map fun held => (⟨entry.1, part, held.1⟩, held.2)

/-- The fields that have another label in another node map, in document order. -/
def relabelledIn (before after : NodeMap) : List FieldRef :=
  before.fieldRefs.filter fun field => before.label? field ≠ after.label? field

theorem map_fst_labelled (nodes : NodeMap) : nodes.labelled.map Prod.fst = nodes.fieldRefs := by
  simp [labelled, fieldRefs, NodeSchema.fieldRefs, OrderedMap.keys, List.map_flatMap,
    Function.comp_def]

theorem label?_of_mem_labelled (member : (field, label) ∈ nodes.labelled) :
    nodes.label? field = some label := by
  simp only [labelled, List.mem_flatMap, List.mem_map] at member
  rcases member with ⟨entry, listed, part, -, ⟨key, value⟩, held, ⟨⟩⟩
  rw [label?, fieldsAt_of_mem listed]
  exact OrderedMap.get?_eq_some_iff.2 held

theorem exists_label?_of_mem_fieldRefs (known : field ∈ nodes.fieldRefs) :
    ∃ label, nodes.label? field = some label :=
  OrderedMap.mem_keys_iff_exists.1 (mem_fieldRefs.1 known)

theorem relabelledIn_self (nodes : NodeMap) : nodes.relabelledIn nodes = [] := by
  simp [relabelledIn]

end NodeMap

/-! ### What a configuration dictates -/

/-- Whether a configuration dictates a label for a key, and by which rule. -/
inductive GlossaryConfig.Dictates (config : GlossaryConfig) (key : String) :
    String → GlossaryRule → Prop
  | preservedKey (listed : key ∈ config.preservedKeys) : Dictates config key key .preservedKey
  | preservedType {type : String} (noKey : key ∉ config.preservedKeys)
      (listed : type ∈ config.preservedTypes) (same : Text.upper type = Text.upper key) :
      Dictates config key (Text.upper key) .preservedType
  | term {entry : String × String} (noKey : key ∉ config.preservedKeys)
      (noType : ∀ type ∈ config.preservedTypes, Text.upper type ≠ Text.upper key)
      (last : IsLast (fun other => Text.lower other.1 = Text.lower key) entry
        config.terms.entries) :
      Dictates config key entry.2 .term

namespace Glossary

variable {config : GlossaryConfig} {key label : String} {reason : GlossaryRule}

theorem preservedKeys_ofConfig : (ofConfig config).preservedKeys = config.preservedKeys := rfl

theorem mem_preservedTypes_ofConfig {name : String} :
    name ∈ (ofConfig config).preservedTypes ↔
      ∃ type ∈ config.preservedTypes, Text.upper type = name := by
  simp [ofConfig]

theorem not_mem_preservedTypes_ofConfig {name : String} :
    name ∉ (ofConfig config).preservedTypes ↔
      ∀ type ∈ config.preservedTypes, Text.upper type ≠ name := by
  simp [mem_preservedTypes_ofConfig]

theorem get?_terms_ofConfig : (ofConfig config).terms.get? (Text.lower key) = some label ↔
    ∃ entry, IsLast (fun other => Text.lower other.1 = Text.lower key) entry
      config.terms.entries ∧ entry.2 = label := by
  have written : config.terms.entries.map (fun entry => (Text.lower entry.1, entry.2)) =
      config.terms.entries.filterMap fun entry => some (Text.lower entry.1, entry.2) := by
    simp
  have own : ∀ item : String × String, Text.lower item.1 = Text.lower key ↔
      ∃ entry, some (Text.lower item.1, item.2) = some entry ∧ entry.1 = Text.lower key := by
    simp
  rw [ofConfig, written, OrderedMap.get?_ofList_filterMap_iff own]
  apply exists_congr
  intro entry
  apply and_congr_right
  intro last
  simp [last.holds]

theorem lookup_eq_some_iff :
    (ofConfig config).lookup key = some (label, reason) ↔ config.Dictates key label reason := by
  constructor
  · intro found
    rw [lookup] at found
    split at found
    · rename_i listed
      cases found
      exact .preservedKey listed
    · rename_i noKey
      split at found
      · rename_i listed
        rcases mem_preservedTypes_ofConfig.1 listed with ⟨type, member, same⟩
        cases found
        exact .preservedType noKey member same
      · rename_i noType
        rcases Option.map_eq_some_iff.1 found with ⟨_, held, ⟨⟩⟩
        rcases get?_terms_ofConfig.1 held with ⟨entry, last, rfl⟩
        exact .term noKey (not_mem_preservedTypes_ofConfig.1 noType) last
  · intro dictates
    cases dictates with
    | preservedKey listed => simp [lookup, preservedKeys_ofConfig, listed]
    | preservedType noKey listed same =>
      have known := mem_preservedTypes_ofConfig.2 ⟨_, listed, same⟩
      simp [lookup, preservedKeys_ofConfig, noKey, known]
    | term noKey noType last =>
      have unknown := not_mem_preservedTypes_ofConfig.2 noType
      have held := get?_terms_ofConfig.2 ⟨_, last, rfl⟩
      simp [lookup, preservedKeys_ofConfig, noKey, unknown, held]

example : ["mask", "MASK", "image", "SIZE", "hue"].map (ofConfig {
      preservedKeys := ["mask"]
      preservedTypes := ["Mask", "Image"]
      terms := .ofList [("Size", "尺寸"), ("size", "大小"), ("image", "图像")] }).lookup =
    [some ("mask", .preservedKey), some ("MASK", .preservedType), some ("IMAGE", .preservedType),
      some ("大小", .term), none] := by
  decide +kernel

end Glossary

/-! ### What is to be enforced -/

namespace GlossaryConfig

/-- Whether an issue says that a field has another label than before, and by which rule. -/
def Records (config : GlossaryConfig) (before after : NodeMap) (field : FieldRef)
    (issue : Issue) : Prop :=
  ∃ old new reason, before.label? field = some old ∧ after.label? field = some new ∧
    config.Dictates field.key new reason ∧ issue = .glossaryOverride field old new reason

/-- Whether a result has the labels that a configuration dictates and is otherwise as before, and
whether exactly the fields with a new label are counted and recorded behind what the log held. -/
structure Enforces (config : GlossaryConfig) (before after : Reconciled) (count : Nat) : Prop where
  shape : after.nodes.shape = before.nodes.shape
  title : ∀ node, (after.nodes.get? node).map NodeSchema.title =
    (before.nodes.get? node).map NodeSchema.title
  dictated : ∀ field ∈ before.nodes.fieldRefs, ∀ label reason,
    config.Dictates field.key label reason → after.nodes.label? field = some label
  untouched : ∀ field ∈ before.nodes.fieldRefs,
    (∀ label reason, ¬config.Dictates field.key label reason) →
      after.nodes.label? field = before.nodes.label? field
  counted : count = (before.nodes.relabelledIn after.nodes).length
  logged : ∃ added, after.log = before.log ++ added ∧ added.length = count ∧
    List.Forall₂ (config.Records before.nodes after.nodes)
      (before.nodes.relabelledIn after.nodes) added

end GlossaryConfig

/-! ### What becomes of a field -/

namespace Glossary

variable {glossary : Glossary} {nodes : NodeMap} {field : FieldRef} {label : String}

theorem labelFor_of_lookup {key dictated : String} {reason : GlossaryRule}
    (dictates : glossary.lookup key = some (dictated, reason)) (label : String) :
    glossary.labelFor key label = dictated := by
  simp [labelFor, dictates]

theorem labelFor_of_silent {key : String} (silent : glossary.lookup key = none) (label : String) :
    glossary.labelFor key label = label := by
  simp [labelFor, silent]

/-- What a glossary dictates does not depend on the label that was there. -/
theorem labelFor_labelFor (key label : String) :
    glossary.labelFor key (glossary.labelFor key label) = glossary.labelFor key label := by
  cases found : glossary.lookup key with
  | none => simp [labelFor_of_silent found]
  | some dictated => simp [labelFor_of_lookup found]

theorem get?_onNodes (glossary : Glossary) (nodes : NodeMap) (node : String) :
    (glossary.onNodes nodes).get? node = (nodes.get? node).map glossary.onSchema :=
  OrderedMap.get?_mapValues _ nodes node

theorem label?_onNodes (field : FieldRef) : (glossary.onNodes nodes).label? field =
    (nodes.label? field).map (glossary.labelFor field.key) := by
  rw [NodeMap.label?, NodeMap.label?, NodeMap.fieldsAt, NodeMap.fieldsAt, get?_onNodes]
  cases nodes.get? field.node with
  | none => rfl
  | some schema => simp [onSchema, OrderedMap.get?_mapValues]

theorem onNodes_onNodes (glossary : Glossary) (nodes : NodeMap) :
    glossary.onNodes (glossary.onNodes nodes) = glossary.onNodes nodes := by
  have settled : ∀ schema, glossary.onSchema (glossary.onSchema schema) =
      glossary.onSchema schema := by
    intro schema
    apply NodeSchema.ext_fields
    case title => rfl
    case sourceFile => rfl
    case fields =>
      intro part
      apply OrderedMap.ext
      simp [onSchema, OrderedMap.mapValues, labelFor_labelFor]
  apply OrderedMap.ext
  simp [onNodes, OrderedMap.mapValues, settled]

theorem issue?_of_kept (kept : glossary.labelFor field.key label = label) :
    glossary.issue? field label = none := by
  cases found : glossary.lookup field.key with
  | none => simp [issue?, found]
  | some dictated =>
    have same : dictated.1 = label := by simpa [labelFor_of_lookup found] using kept
    simp [issue?, found, same]

theorem issue?_of_changed (changed : glossary.labelFor field.key label ≠ label) :
    ∃ reason, glossary.lookup field.key = some (glossary.labelFor field.key label, reason) ∧
      glossary.issue? field label =
        some (.glossaryOverride field label (glossary.labelFor field.key label) reason) := by
  cases found : glossary.lookup field.key with
  | none => exact absurd (labelFor_of_silent found label) changed
  | some dictated =>
    rcases dictated with ⟨dictated, reason⟩
    rw [labelFor_of_lookup found] at changed ⊢
    refine ⟨reason, rfl, ?_⟩
    apply issue?_eq_some_iff.2
    exact ⟨dictated, reason, found, Ne.symm changed, rfl⟩

/-! ### Every changed field is recorded once -/

theorem issues_eq (glossary : Glossary) (nodes : NodeMap) : glossary.issues nodes =
    nodes.labelled.filterMap fun entry => glossary.issue? entry.1 entry.2 := by
  simp only [issues, NodeMap.labelled, List.filterMap_flatMap, List.filterMap_map]
  rfl

theorem overrides_eq (glossary : Glossary) (nodes : NodeMap) : glossary.overrides nodes =
    nodes.labelled.countP fun entry => glossary.labelFor entry.1.key entry.2 ≠ entry.2 := by
  rw [overrides, ← List.sum_eq_foldr, List.flatMap_def, List.sum_flatten]
  simp [NodeMap.labelled, List.countP_flatMap, OrderedMap.values, Function.comp_def]

/-- The number that is reported is the number of entries that are recorded. -/
theorem length_issues (glossary : Glossary) (nodes : NodeMap) :
    (glossary.issues nodes).length = glossary.overrides nodes := by
  rw [issues_eq, overrides_eq, List.length_filterMap_eq_countP]
  apply List.countP_congr
  rintro ⟨field, label⟩ -
  by_cases kept : glossary.labelFor field.key label = label
  · simp [issue?_of_kept kept, kept]
  · rcases issue?_of_changed kept with ⟨reason, -, recorded⟩
    simp [recorded, kept]

theorem forall₂_records (config : GlossaryConfig) (nodes : NodeMap) :
    List.Forall₂ (config.Records nodes ((ofConfig config).onNodes nodes))
      (nodes.relabelledIn ((ofConfig config).onNodes nodes)) ((ofConfig config).issues nodes) := by
  have labels : ∀ field label, (field, label) ∈ nodes.labelled →
      nodes.label? field = some label ∧ ((ofConfig config).onNodes nodes).label? field =
        some ((ofConfig config).labelFor field.key label) := by
    intro field label member
    have held := NodeMap.label?_of_mem_labelled member
    simp [label?_onNodes, held]
  rw [NodeMap.relabelledIn, ← NodeMap.map_fst_labelled, issues_eq]
  apply forall₂_filter_filterMap
  · rintro ⟨field, label⟩ member same
    rcases labels field label member with ⟨old, new⟩
    have kept : label = (ofConfig config).labelFor field.key label := by
      simpa [old, new] using same
    exact issue?_of_kept kept.symm
  · rintro ⟨field, label⟩ member differs
    rcases labels field label member with ⟨old, new⟩
    have changed : label ≠ (ofConfig config).labelFor field.key label := by
      simpa [old, new] using differs
    rcases issue?_of_changed changed.symm with ⟨reason, dictates, recorded⟩
    exact ⟨_, recorded, _, _, reason, old, new, lookup_eq_some_iff.1 dictates, rfl⟩

/-! ### The pass -/

theorem enforces_apply (config : GlossaryConfig) (result : Reconciled) :
    config.Enforces result ((ofConfig config).apply result)
      ((ofConfig config).overrides result.nodes) := by
  have recorded := forall₂_records config result.nodes
  have length := length_issues (ofConfig config) result.nodes
  constructor
  case shape => exact shape_onNodes _ _
  case title =>
    intro node
    simp [apply, get?_onNodes, Function.comp_def, onSchema, NodeSchema.withFields]
  case dictated =>
    intro field known label reason dictates
    rcases NodeMap.exists_label?_of_mem_fieldRefs known with ⟨old, held⟩
    have found := lookup_eq_some_iff.2 dictates
    simp [apply, label?_onNodes, held, labelFor_of_lookup found]
  case untouched =>
    intro field known silent
    have unfound : (ofConfig config).lookup field.key = none := by
      apply Option.eq_none_iff_forall_not_mem.2
      rintro ⟨label, reason⟩ found
      exact silent label reason (lookup_eq_some_iff.1 found)
    have kept : (ofConfig config).labelFor field.key = id :=
      funext fun label => labelFor_of_silent unfound label
    simp [apply, label?_onNodes, kept]
  case counted =>
    rw [← length]
    exact recorded.length_eq.symm
  case logged => exact ⟨_, rfl, length, recorded⟩

/-- A pass enforces what its configuration dictates, counts and records exactly what it changes, and
has nothing to do for a second time. -/
theorem enforces_and_settles (config : GlossaryConfig) (result : Reconciled) :
    config.Enforces result ((ofConfig config).apply result)
        ((ofConfig config).overrides result.nodes) ∧
      (ofConfig config).apply ((ofConfig config).apply result) = (ofConfig config).apply result ∧
      (ofConfig config).overrides ((ofConfig config).apply result).nodes = 0 := by
  have again := enforces_apply config ((ofConfig config).apply result)
  have same : ((ofConfig config).apply ((ofConfig config).apply result)).nodes =
      ((ofConfig config).apply result).nodes := onNodes_onNodes _ _
  have none : (ofConfig config).overrides ((ofConfig config).apply result).nodes = 0 := by
    rw [again.counted, same, NodeMap.relabelledIn_self, List.length_nil]
  refine ⟨enforces_apply config result, ?_, none⟩
  rcases again.logged with ⟨added, log, length, -⟩
  have nothing : added = [] := by simpa [none] using length
  rw [nothing, List.append_nil] at log
  exact congrArg₂ Reconciled.mk same log

end Glossary

end NodeLocale
