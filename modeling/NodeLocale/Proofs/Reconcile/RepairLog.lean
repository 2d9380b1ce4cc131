import Mathlib.Data.List.Flatten
import NodeLocale.Proofs.Reconcile.RepairedNodes

/-!
# What repair records

Repair records what it had to fill in, and nothing else. A node that a pass does not take from the
candidate is recorded once, as a whole. Of every other node the title is recorded if the candidate
has no text for it, and each field for which the candidate has no value or none that can stand for a
label. The entries stand in document order.

What is recorded depends on what the candidate has and not on what the label becomes: a label that
equals its key is no gap, but a gap is filled with the key.
-/

namespace NodeLocale

namespace Repair

variable {node : String} {schema : NodeSchema} {candidate : Json} {field : FieldRef} {issue : Issue}

/-! ### What is recorded about one node -/

theorem mem_titleIssues :
    issue ∈ titleIssues node candidate ↔
      issue = .missingTitle node ∧
        ∀ title, candidate.member? "title" ≠ some (.string title) := by
  rw [titleIssues]
  split
  · rename_i title found
    simp [found]
  · rename_i untitled
    simp only [List.mem_singleton]
    constructor
    · exact fun same => ⟨same, untitled⟩
    · exact fun both => both.1

theorem fieldIssue?_eq_some_iff {given : Option Json} :
    fieldIssue? field given = some issue ↔
      (given = none ∧ issue = .missingKey field) ∨
        ∃ value, given = some value ∧ value.NoLabel ∧ issue = .unusableValue field value.kind := by
  constructor
  · intro recorded
    cases given with
    | none => exact Or.inl ⟨rfl, (Option.some.inj recorded).symm⟩
    | some value =>
      refine Or.inr ⟨value, rfl, ?_⟩
      cases value with
      | null => exact ⟨.null, (Option.some.inj recorded).symm⟩
      | array items => exact ⟨.array items, (Option.some.inj recorded).symm⟩
      | object members => exact ⟨.object members, (Option.some.inj recorded).symm⟩
      | bool flag => cases recorded
      | number value => cases recorded
      | string label => cases recorded
  · rintro (⟨rfl, rfl⟩ | ⟨value, rfl, noLabel, rfl⟩)
    · rfl
    · cases noLabel <;> rfl

theorem place?_of_fieldIssue? {given : Option Json}
    (recorded : fieldIssue? field given = some issue) : issue.place? = some (.field field) := by
  rcases fieldIssue?_eq_some_iff.1 recorded with ⟨-, rfl⟩ | ⟨value, -, -, rfl⟩
  · rfl
  · rfl

/-- A node is recorded title first, then field by field. -/
theorem nodeIssues_eq (node : String) (schema : NodeSchema) (candidate : Json) :
    nodeIssues node schema candidate = titleIssues node candidate ++
      (schema.fieldRefs node).filterMap fun field =>
        fieldIssue? field (given? candidate field.part field.key) := by
  have fields : FieldSection.all.flatMap (sectionIssues node schema candidate) =
      (schema.fieldRefs node).filterMap fun field =>
        fieldIssue? field (given? candidate field.part field.key) := by
    simp only [NodeSchema.fieldRefs, List.filterMap_flatMap, List.filterMap_map]
    rfl
  rw [nodeIssues, fields]

theorem mem_nodeIssues :
    issue ∈ nodeIssues node schema candidate ↔
      issue ∈ titleIssues node candidate ∨
        ∃ field ∈ schema.fieldRefs node,
          fieldIssue? field (given? candidate field.part field.key) = some issue := by
  rw [nodeIssues_eq, List.mem_append, List.mem_filterMap]

/-- Whatever is recorded about a node stands in the order of its places. -/
theorem sublist_places_issues (node : String) (schema : NodeSchema) (verdict : Verdict) :
    ((verdict.issues node schema).map Issue.place?).Sublist
      ((NodeMap.Place.node node :: (schema.fieldRefs node).map .field).map some) := by
  have alone : ([some (NodeMap.Place.node node)]).Sublist
      ((NodeMap.Place.node node :: (schema.fieldRefs node).map .field).map some) := by
    simp
  cases verdict with
  | untranslated => exact alone
  | incomplete missing => exact alone
  | usable candidate =>
    rw [Verdict.issues, nodeIssues_eq, List.map_append, List.map_cons, List.map_map]
    have title : ((titleIssues node candidate).map Issue.place?).Sublist
        [some (NodeMap.Place.node node)] := by
      rw [titleIssues]
      split <;> simp [Issue.place?]
    have fields : (((schema.fieldRefs node).filterMap fun field =>
        fieldIssue? field (given? candidate field.part field.key)).map Issue.place?).Sublist
          ((schema.fieldRefs node).map (some ∘ NodeMap.Place.field)) :=
      sublist_map_filterMap (fun _ _ recorded => place?_of_fieldIssue? recorded) _
    exact title.append fields

theorem node?_of_mem_issues {verdict : Verdict} (recorded : issue ∈ verdict.issues node schema) :
    issue.node? = some node := by
  have placed := (sublist_places_issues node schema verdict).subset (List.mem_map_of_mem recorded)
  rcases List.mem_map.1 placed with ⟨place, member, same⟩
  rw [Issue.node?_eq, ← same, Option.map_some]
  rcases List.mem_cons.1 member with rfl | member
  · rfl
  · rcases List.mem_map.1 member with ⟨field, present, rfl⟩
    exact congrArg some (NodeSchema.mem_fieldRefs.1 present).1

end Repair

/-! ### What is recorded about all nodes -/

/-- The issues that a pass has reason to record. -/
inductive Recorded (pass : RepairPass) (source : NodeMap) (candidate : JsonObject) : Issue → Prop
  | untranslated {node : String} (known : node ∈ source.keys)
      (noObject : ¬ candidate.HasObject node) :
      Recorded pass source candidate (.untranslatedNode node)
  | incomplete {node : String} {members : List (String × Json)} (known : node ∈ source.keys)
      (given : candidate.get? node = some (.object members))
      (lacking : pass.missing members ≠ []) :
      Recorded pass source candidate (.incompleteNode node (pass.missing members))
  | missingTitle {node : String} {members : List (String × Json)} (known : node ∈ source.keys)
      (given : candidate.get? node = some (.object members))
      (complete : pass.missing members = [])
      (untitled : ∀ title, Entries.find? "title" members ≠ some (.string title)) :
      Recorded pass source candidate (.missingTitle node)
  | missingKey {field : FieldRef} {members : List (String × Json)}
      (known : field ∈ source.fieldRefs)
      (given : candidate.get? field.node = some (.object members))
      (complete : pass.missing members = [])
      (absent : candidate.valueAt? field = none) :
      Recorded pass source candidate (.missingKey field)
  | unusableValue {field : FieldRef} {members : List (String × Json)} {value : Json}
      (known : field ∈ source.fieldRefs)
      (given : candidate.get? field.node = some (.object members))
      (complete : pass.missing members = [])
      (found : candidate.valueAt? field = some value) (noLabel : value.NoLabel) :
      Recorded pass source candidate (.unusableValue field value.kind)

namespace RepairPass

variable {pass : RepairPass} {source : NodeMap} {candidate : JsonObject} {node : String}
  {schema : NodeSchema} {members : List (String × Json)} {issue : Issue}

/-- What a pass records about a node. -/
def issuesOf (pass : RepairPass) (candidate : JsonObject) (node : String) (schema : NodeSchema) :
    CorrectionLog :=
  (pass.verdict (candidate.get? node)).issues node schema

theorem log_run (pass : RepairPass) (source : NodeMap) (candidate : JsonObject) :
    (pass.run source candidate).log = source.entries.flatMap fun entry =>
      pass.issuesOf candidate entry.1 entry.2 := by
  rw [run_eq]
  rfl

theorem log_about (pass : RepairPass) (source : NodeMap) (candidate : JsonObject)
    (node : String) :
    (pass.run source candidate).log.about node =
      ((source.get? node).map (pass.issuesOf candidate node)).getD [] := by
  rw [CorrectionLog.about, log_run]
  refine Entries.filter_flatMap (pass.issuesOf candidate) Issue.node? ?_ source.distinct node
  exact fun other schema issue recorded => Repair.node?_of_mem_issues recorded

theorem issuesOf_of_not_hasObject (noObject : ¬ candidate.HasObject node) :
    pass.issuesOf candidate node schema = [.untranslatedNode node] := by
  rw [issuesOf, verdict_of_not_hasObject noObject, Repair.Verdict.issues]

theorem issuesOf_of_missing (given : candidate.get? node = some (.object members))
    (lacking : pass.missing members ≠ []) :
    pass.issuesOf candidate node schema = [.incompleteNode node (pass.missing members)] := by
  rw [issuesOf, given, verdict_of_missing lacking, Repair.Verdict.issues]

theorem issuesOf_of_complete (given : candidate.get? node = some (.object members))
    (complete : pass.missing members = []) :
    pass.issuesOf candidate node schema = Repair.nodeIssues node schema (.object members) := by
  rw [issuesOf, given, verdict_of_complete complete, Repair.Verdict.issues]

theorem recorded_of_mem_issuesOf (member : (node, schema) ∈ source.entries)
    (recorded : issue ∈ pass.issuesOf candidate node schema) :
    Recorded pass source candidate issue := by
  have known : node ∈ source.keys := List.mem_map_of_mem member
  by_cases object : candidate.HasObject node
  · rcases object with ⟨members, given⟩
    by_cases complete : pass.missing members = []
    · rw [issuesOf_of_complete given complete, Repair.mem_nodeIssues] at recorded
      rcases recorded with recorded | ⟨field, present, recorded⟩
      · rcases Repair.mem_titleIssues.1 recorded with ⟨rfl, untitled⟩
        exact .missingTitle known given complete untitled
      · rcases NodeSchema.mem_fieldRefs.1 present with ⟨rfl, -⟩
        have knownField : field ∈ source.fieldRefs :=
          List.mem_flatMap.2 ⟨(field.node, schema), member, present⟩
        rw [← JsonObject.valueAt?_of_object given, Repair.fieldIssue?_eq_some_iff] at recorded
        rcases recorded with ⟨absent, rfl⟩ | ⟨value, found, noLabel, rfl⟩
        · exact .missingKey knownField given complete absent
        · exact .unusableValue knownField given complete found noLabel
    · rw [issuesOf_of_missing given complete, List.mem_singleton] at recorded
      subst recorded
      exact .incomplete known given complete
  · rw [issuesOf_of_not_hasObject object, List.mem_singleton] at recorded
    subst recorded
    exact .untranslated known object

theorem mem_log_of_field {field : FieldRef} (known : field ∈ source.fieldRefs)
    (given : candidate.get? field.node = some (.object members))
    (complete : pass.missing members = [])
    (recorded : Repair.fieldIssue? field (candidate.valueAt? field) = some issue) :
    issue ∈ (pass.run source candidate).log := by
  rcases List.mem_flatMap.1 known with ⟨⟨node, schema⟩, member, present⟩
  rcases NodeSchema.mem_fieldRefs.1 present with ⟨rfl, -⟩
  rw [log_run]
  refine List.mem_flatMap.2 ⟨(field.node, schema), member, ?_⟩
  rw [JsonObject.valueAt?_of_object given] at recorded
  rw [issuesOf_of_complete given complete, Repair.mem_nodeIssues]
  exact Or.inr ⟨field, present, recorded⟩

/-- A pass records what it has reason to record. -/
theorem mem_log_iff : issue ∈ (pass.run source candidate).log ↔
    Recorded pass source candidate issue := by
  constructor
  · intro recorded
    rw [log_run] at recorded
    rcases List.mem_flatMap.1 recorded with ⟨⟨node, schema⟩, member, recorded⟩
    exact recorded_of_mem_issuesOf member recorded
  · have listed : ∀ node ∈ source.keys, (∀ schema, issue ∈ pass.issuesOf candidate node schema) →
        issue ∈ (pass.run source candidate).log := by
      intro node known recorded
      rcases List.mem_map.1 known with ⟨⟨_, schema⟩, member, rfl⟩
      rw [log_run]
      exact List.mem_flatMap.2 ⟨_, member, recorded schema⟩
    intro recorded
    cases recorded with
    | untranslated known noObject =>
      apply listed _ known
      intro schema
      simp [issuesOf_of_not_hasObject noObject]
    | incomplete known given lacking =>
      apply listed _ known
      intro schema
      simp [issuesOf_of_missing given lacking]
    | missingTitle known given complete untitled =>
      apply listed _ known
      intro schema
      rw [issuesOf_of_complete given complete, Repair.mem_nodeIssues]
      exact Or.inl (Repair.mem_titleIssues.2 ⟨rfl, untitled⟩)
    | missingKey known given complete absent =>
      apply mem_log_of_field known given complete
      exact Repair.fieldIssue?_eq_some_iff.2 (Or.inl ⟨absent, rfl⟩)
    | unusableValue known given complete found noLabel =>
      apply mem_log_of_field known given complete
      exact Repair.fieldIssue?_eq_some_iff.2 (Or.inr ⟨_, found, noLabel, rfl⟩)

theorem sublist_places_log (pass : RepairPass) (source : NodeMap) (candidate : JsonObject) :
    ((pass.run source candidate).log.map Issue.place?).Sublist (source.places.map some) := by
  rw [log_run, NodeMap.places, List.map_flatMap, List.map_flatMap]
  apply List.Sublist.flatMap_right
  intro entry _
  exact Repair.sublist_places_issues entry.1 entry.2 _

/-- Whether a log accounts for the repairs of a pass: it holds what there is reason to record, one
entry for a node that is kept as a whole and at most one for each title and field of the others, all
in document order. -/
structure AccountsFor (pass : RepairPass) (source : NodeMap) (candidate : JsonObject)
    (log : CorrectionLog) : Prop where
  recorded : ∀ issue, issue ∈ log ↔ Recorded pass source candidate issue
  untranslated : ∀ node ∈ source.keys, ¬ candidate.HasObject node →
    log.about node = [.untranslatedNode node]
  incomplete : ∀ node ∈ source.keys, ∀ members, candidate.get? node = some (.object members) →
    pass.missing members ≠ [] → log.about node = [.incompleteNode node (pass.missing members)]
  once : (log.map Issue.place?).Nodup
  ordered : (log.map Issue.place?).Sublist (source.places.map some)

theorem accountsFor_log (pass : RepairPass) (source : NodeMap) (candidate : JsonObject) :
    AccountsFor pass source candidate (pass.run source candidate).log := by
  constructor
  case recorded => exact fun issue => mem_log_iff
  case untranslated =>
    intro node known noObject
    rcases OrderedMap.mem_keys_iff_exists.1 known with ⟨schema, found⟩
    rw [log_about, found, Option.map_some, Option.getD_some, issuesOf_of_not_hasObject noObject]
  case incomplete =>
    intro node known members given lacking
    rcases OrderedMap.mem_keys_iff_exists.1 known with ⟨schema, found⟩
    rw [log_about, found, Option.map_some, Option.getD_some, issuesOf_of_missing given lacking]
  case once =>
    apply (sublist_places_log pass source candidate).nodup
    exact source.nodup_places.map fun first second same => Option.some.inj same
  case ordered => exact sublist_places_log pass source candidate

/-- Both labels equal their keys, but only one of them is a gap that was filled. -/
example :
    let source : NodeMap := .ofList [("Blur",
      { title := "Blur", inputs := .ofList [("image", "image"), ("mask", "mask")] })]
    let candidate : JsonObject := .ofList [("Blur", .object [("title", .string "Blur"),
      ("inputs", .object [("image", .string "image")])])]
    reconcileBatch source candidate =
      ⟨source, [.missingKey ⟨"Blur", .inputs, "mask"⟩]⟩ := by
  decide +kernel

end RepairPass

end NodeLocale
