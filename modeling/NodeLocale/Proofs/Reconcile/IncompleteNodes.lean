import Mathlib.Data.List.Perm.Subperm
import NodeLocale.Proofs.Reconcile.RepairLog

/-!
# Validation as repair

Final validation does what batch repair does, except that it discards every node of the candidate
that is an object but lacks a required member. So it gives the nodes that batch repair makes of the
candidate without these nodes, and it records the same, but for what it says of a discarded node:
batch repair records that nothing was given for it, and validation which members it lacks. A member
is lacking only if there is none of its name, whatever the value of one that is there.
-/

namespace NodeLocale

theorem OrderedMap.get?_filter {α β : Type} [DecidableEq α] (keep : α → β → Bool)
    (map : OrderedMap α β) (key : α) :
    (map.filter keep).get? key = (map.get? key).filter (keep key) := by
  apply Option.ext
  intro value
  rw [get?_eq_some_iff, Option.filter_eq_some_iff, get?_eq_some_iff, filter, List.mem_filter]

/-- Whether names are those of the required members that an object lacks, in their order. -/
structure Json.Lacks (members : List (String × Json)) (missing : List String) : Prop where
  ordered : missing.Sublist ["title", "inputs", "widgets", "outputs"]
  absent : ∀ name ∈ ["title", "inputs", "widgets", "outputs"],
    name ∈ missing ↔ ∀ value, (name, value) ∉ members

/-- Whether a value is an object that lacks a required member. -/
def Json.isIncomplete : Json → Bool
  | .object members => ["title", "inputs", "widgets", "outputs"].any fun name =>
    !(members.map Prod.fst).contains name
  | _ => false

/-- A candidate without its incomplete nodes. -/
def JsonObject.withoutIncomplete (candidate : JsonObject) : JsonObject :=
  candidate.filter fun _ value => !value.isIncomplete

/-- What is said of an incomplete node where it counts as not given. -/
def Issue.asUntranslated : Issue → Issue
  | .incompleteNode node _ => .untranslatedNode node
  | issue => issue

namespace Repair

variable {members : List (String × Json)} {missing : List String} {node : String}
  {schema : NodeSchema} {candidate : Json} {given : Option Json}

/-! ### Discarded nodes -/

theorem mem_missingMembers {name : String} : name ∈ missingMembers members ↔
    name ∈ requiredMembers ∧ ∀ value, (name, value) ∉ members := by
  rw [missingMembers, List.mem_filter, Option.isNone_iff_eq_none, Entries.find?_eq_none_iff]
  simp

/-- The members that validation misses are those that an object lacks, and no other list names
them. -/
theorem lacks_iff : Json.Lacks members missing ↔ missing = missingMembers members := by
  have all : (missingMembers members).Sublist requiredMembers := List.filter_sublist
  constructor
  · intro lacks
    have distinct : requiredMembers.Nodup := by decide
    have own : missing.Sublist requiredMembers := lacks.ordered
    rw [← List.Nodup.perm_iff_eq_of_sublist distinct own all,
      List.perm_ext_iff_of_nodup (distinct.sublist own) (distinct.sublist all)]
    intro name
    rw [mem_missingMembers]
    constructor
    · intro named
      exact ⟨own.subset named, (lacks.absent name (own.subset named)).1 named⟩
    · rintro ⟨required, absent⟩
      exact (lacks.absent name required).2 absent
  · rintro rfl
    refine ⟨all, fun name required => ?_⟩
    rw [mem_missingMembers]
    exact and_iff_right required

theorem isIncomplete_iff :
    (Json.object members).isIncomplete = true ↔ missingMembers members ≠ [] := by
  have listed : (Json.object members).isIncomplete = true ↔
      ∃ name, name ∈ missingMembers members := by
    rw [Json.isIncomplete, List.any_eq_true]
    apply exists_congr
    intro name
    rw [mem_missingMembers]
    simp [requiredMembers]
  rw [listed]
  constructor
  · rintro ⟨name, lacking⟩
    exact List.ne_nil_of_mem lacking
  · exact List.exists_mem_of_ne_nil _

/-! ### The two verdicts -/

/-- What validation does with a node, and what batch repair does once incomplete nodes are
discarded. -/
inductive Discards : Verdict → Verdict → Prop
  | untranslated : Discards .untranslated .untranslated
  | incomplete (missing : List String) : Discards (.incomplete missing) .untranslated
  | usable (candidate : Json) : Discards (.usable candidate) (.usable candidate)

theorem discards_verdicts (given : Option Json) :
    Discards (finalVerdict given)
      (batchVerdict (given.filter fun value => !value.isIncomplete)) := by
  cases given with
  | none => exact .untranslated
  | some value =>
    cases value with
    | object members =>
      rw [Option.filter_some]
      by_cases complete : missingMembers members = []
      · have kept : (Json.object members).isIncomplete = false := by
          rw [← Bool.not_eq_true, isIncomplete_iff, not_not]
          exact complete
        rw [finalVerdict, if_pos (List.isEmpty_iff.2 complete), kept]
        exact .usable _
      · rw [finalVerdict, if_neg fun empty => complete (List.isEmpty_iff.1 empty),
          isIncomplete_iff.2 complete]
        exact .incomplete _
    | null | bool | number | string | array => exact .untranslated

theorem asUntranslated_of_mem_nodeIssues {issue : Issue}
    (recorded : issue ∈ nodeIssues node schema candidate) : issue.asUntranslated = issue := by
  rcases mem_nodeIssues.1 recorded with title | ⟨field, -, recorded⟩
  · rw [(mem_titleIssues.1 title).1]
    rfl
  · rcases fieldIssue?_eq_some_iff.1 recorded with ⟨-, rfl⟩ | ⟨value, -, -, rfl⟩
    · rfl
    · rfl

namespace Discards

variable {final batch : Verdict}

theorem apply_eq (discards : Discards final batch) (schema : NodeSchema) :
    final.apply schema = batch.apply schema := by
  cases discards <;> rfl

theorem issues_eq (discards : Discards final batch) (node : String) (schema : NodeSchema) :
    (final.issues node schema).map Issue.asUntranslated = batch.issues node schema := by
  cases discards with
  | untranslated => rfl
  | incomplete => rfl
  | usable candidate =>
    apply Eq.trans (List.map_congr_left _) (List.map_id _)
    intro issue recorded
    exact asUntranslated_of_mem_nodeIssues recorded

end Discards

/-! ### The two passes -/

theorem discards_withoutIncomplete (candidate : JsonObject) (node : String) :
    Discards (finalVerdict (candidate.get? node))
      (batchVerdict (candidate.withoutIncomplete.get? node)) := by
  rw [JsonObject.withoutIncomplete, OrderedMap.get?_filter]
  exact discards_verdicts (candidate.get? node)

variable (source : NodeMap) (candidate : JsonObject)

theorem nodes_finalValidation : (finalValidation source candidate).nodes =
    (reconcileBatch source candidate.withoutIncomplete).nodes := by
  apply OrderedMap.ext
  apply List.map_congr_left
  intro entry member
  exact Prod.ext rfl ((discards_withoutIncomplete candidate entry.1).apply_eq entry.2)

theorem log_finalValidation : (finalValidation source candidate).log.map Issue.asUntranslated =
    (reconcileBatch source candidate.withoutIncomplete).log := by
  rw [finalValidation, reconcileBatch, reconcileBy, reconcileBy, List.map_flatMap]
  apply List.flatMap_congr
  intro entry member
  exact (discards_withoutIncomplete candidate entry.1).issues_eq entry.1 entry.2

/-- A node is recorded as incomplete if it is an object that lacks members, which are listed. -/
theorem incompleteNode_mem_log_iff {node : String} {missing : List String} :
    .incompleteNode node missing ∈ (finalValidation source candidate).log ↔
      node ∈ source.keys ∧ missing ≠ [] ∧
        ∃ members, candidate.get? node = some (.object members) ∧ Json.Lacks members missing := by
  rw [show finalValidation source candidate = RepairPass.final.run source candidate from rfl,
    RepairPass.mem_log_iff]
  constructor
  · intro recorded
    cases recorded with
    | incomplete known given lacking => exact ⟨known, lacking, _, given, lacks_iff.2 rfl⟩
  · rintro ⟨known, lacking, members, given, lacks⟩
    obtain rfl : missing = RepairPass.final.missing members := lacks_iff.1 lacks
    exact .incomplete known given lacking

end Repair

/-- Final validation is batch repair of the candidate without its incomplete nodes. What it records
differs in the entries of these nodes only, and these list what a node lacks. -/
theorem finalValidation_refines_reconcileBatch (source : NodeMap) (candidate : JsonObject) :
    (finalValidation source candidate).nodes =
        (reconcileBatch source candidate.withoutIncomplete).nodes ∧
      (finalValidation source candidate).log.map Issue.asUntranslated =
        (reconcileBatch source candidate.withoutIncomplete).log ∧
      ∀ node missing, .incompleteNode node missing ∈ (finalValidation source candidate).log ↔
        node ∈ source.keys ∧ missing ≠ [] ∧ ∃ members,
          candidate.get? node = some (.object members) ∧ Json.Lacks members missing := by
  refine ⟨Repair.nodes_finalValidation source candidate,
    Repair.log_finalValidation source candidate, ?_⟩
  intro node missing
  exact Repair.incompleteNode_mem_log_iff source candidate

/-- A title that is null is there, so only the node without outputs is discarded. -/
example :
    let source : NodeMap := .ofList [("Blur", { title := "Blur" }), ("Mix", { title := "Mix" })]
    let members : List (String × Json) := [("title", .null), ("inputs", .array []),
      ("widgets", .object [])]
    let candidate : JsonObject := .ofList [("Blur", .object (members ++ [("outputs", .null)])),
      ("Mix", .object members)]
    (finalValidation source candidate).log =
      [.missingTitle "Blur", .incompleteNode "Mix" ["outputs"]] := by
  decide +kernel

end NodeLocale
