import NodeLocale.Issue

/-!
# Repair

The source node map is the truth about which nodes and fields there are; a candidate only
supplies labels. Batch repair takes from a candidate what it can use, field by field, and
fills every gap from the source. Final validation first discards the nodes of the candidate
that lack a required member.

The repaired nodes and the log are two functions of the same data: what a node becomes is
decided by `repairedNode`, and what is recorded about it by `nodeIssues`.
-/

namespace NodeLocale

/-- A repaired node map and the decisions that led to it. -/
structure Reconciled where
  nodes : NodeMap
  /-- The decisions, in order. -/
  log : CorrectionLog
deriving DecidableEq

namespace Repair

/-- The members that a translated node must have. -/
def requiredMembers : List String := ["title", "inputs", "widgets", "outputs"]

/-- The label of a field, from what the candidate gives for it. -/
def repairedLabel (key : String) : Option Json → String
  | some (.string label) => label
  | some (.number label) => label.text
  | some (.bool true) => "true"
  | some (.bool false) => "false"
  | _ => key

/-- What is recorded about a field, from what the candidate gives for it. -/
def fieldIssue? (field : FieldRef) : Option Json → Option Issue
  | some (.string _) => none
  | some (.number _) => none
  | some (.bool _) => none
  | some other => some (.unusableValue field other.kind)
  | none => some (.missingKey field)

/-- What the candidate gives for a field of a node. -/
def given? (candidate : Json) (part : FieldSection) (key : String) : Option Json :=
  (candidate.member? part.name).bind (Json.member? key)

/-- The title of a node, from the candidate for it. -/
def repairedTitle (source : NodeSchema) (candidate : Json) : String :=
  match candidate.member? "title" with
  | some (.string title) => title
  | _ => source.title

/-- What is recorded about a title. -/
def titleIssues (node : String) (candidate : Json) : List Issue :=
  match candidate.member? "title" with
  | some (.string _) => []
  | _ => [.missingTitle node]

/-- A node with the labels of a candidate. -/
def repairedNode (source : NodeSchema) (candidate : Json) : NodeSchema :=
  { source with title := repairedTitle source candidate }.withFields fun part =>
    (source.fields part).mapValues fun key _ => repairedLabel key (given? candidate part key)

/-- What is recorded about a section of a node. -/
def sectionIssues (node : String) (source : NodeSchema) (candidate : Json)
    (part : FieldSection) : List Issue :=
  (source.fields part).keys.filterMap fun key =>
    fieldIssue? ⟨node, part, key⟩ (given? candidate part key)

/-- What is recorded about a node for which there is a candidate. -/
def nodeIssues (node : String) (source : NodeSchema) (candidate : Json) : List Issue :=
  titleIssues node candidate ++
    FieldSection.all.flatMap (sectionIssues node source candidate)

/-- What is to be done with a node. -/
inductive Verdict
  /-- There is no candidate that is an object. -/
  | untranslated
  /-- The candidate lacks these members. -/
  | incomplete (missing : List String)
  | usable (candidate : Json)

/-- The verdict of batch repair, from what the candidate gives for a node. -/
def batchVerdict : Option Json → Verdict
  | some (.object members) => .usable (.object members)
  | _ => .untranslated

/-- The required members that a node lacks. -/
def missingMembers (members : List (String × Json)) : List String :=
  requiredMembers.filter fun name => (Entries.find? name members).isNone

/-- The verdict of final validation, from what the candidate gives for a node. -/
def finalVerdict : Option Json → Verdict
  | some (.object members) =>
    if (missingMembers members).isEmpty then .usable (.object members)
    else .incomplete (missingMembers members)
  | _ => .untranslated

/-- What a node becomes. -/
def Verdict.apply (source : NodeSchema) : Verdict → NodeSchema
  | untranslated => source
  | incomplete _ => source
  | usable candidate => repairedNode source candidate

/-- What is recorded about a node. -/
def Verdict.issues (node : String) (source : NodeSchema) : Verdict → List Issue
  | untranslated => [.untranslatedNode node]
  | incomplete missing => [.incompleteNode node missing]
  | usable candidate => nodeIssues node source candidate

/-- Repairs every node of the source by a verdict on what the candidate gives for it. -/
def reconcileBy (verdict : Option Json → Verdict) (source : NodeMap)
    (candidate : JsonObject) : Reconciled where
  nodes := source.mapValues fun node schema => (verdict (candidate.get? node)).apply schema
  log := source.entries.flatMap fun entry =>
    (verdict (candidate.get? entry.1)).issues entry.1 entry.2

end Repair

def reconcileBatch (source : NodeMap) (candidate : JsonObject) : Reconciled :=
  Repair.reconcileBy Repair.batchVerdict source candidate

/-- Repairs a merged result, restoring the nodes that lack a required member. -/
def finalValidation (source : NodeMap) (candidate : JsonObject) : Reconciled :=
  Repair.reconcileBy Repair.finalVerdict source candidate

end NodeLocale
