import NodeLocale.Proofs.Reconcile.DocumentOrder
import NodeLocale.Proofs.Reconcile.Restoration

/-!
# The order of the nodes

The order in which links are found shows in the name table, of which either direction keeps the last
name only. It does not show in what a cross check makes of a node, because a Han key is resolved by
the set of its links. So a cross check depends on what stands under each node key and not on the
order of the nodes.
-/

namespace NodeLocale

universe u v

/-- Maps with the same entries in another order hold the same under every key. -/
theorem OrderedMap.get?_eq_of_perm {α : Type u} {β : Type v} [DecidableEq α]
    {left right : OrderedMap α β} (reordered : left.entries.Perm right.entries) (key : α) :
    left.get? key = right.get? key := by
  apply Option.ext
  intro value
  rw [get?_eq_some_iff, get?_eq_some_iff, reordered.mem_iff]

theorem NodeMap.fieldsAt_congr {left right : NodeMap}
    (same : ∀ node, left.get? node = right.get? node) (node : String) (part : FieldSection) :
    left.fieldsAt node part = right.fieldsAt node part := by
  rw [fieldsAt, fieldsAt, same]

theorem KeyResolution.ofKey_congr {table other : NameTable} {key : String}
    (same : ∀ english, ⟨english, key⟩ ∈ table.links ↔ ⟨english, key⟩ ∈ other.links)
    (sourceKeys : List String) : ofKey table sourceKeys key = ofKey other sourceKeys key := by
  have names : ∀ english, english ∈ table.englishFor key ↔ english ∈ other.englishFor key := by
    intro english
    rw [NameTable.mem_englishFor, NameTable.mem_englishFor, same]
  rw [ofKey_eq, ofKey_eq, candidates_congr same, exactMatches_congr names]

theorem CorrectionLog.restores_about {log : CorrectionLog} {node key target : String}
    {part : FieldSection} :
    (log.about node).Restores node part key target ↔ log.Restores node part key target := by
  simp [Restores, about, Issue.node?]

namespace CrossCheck

variable {source reordered translated shuffled : NodeMap}

/-! ### What becomes of one node -/

theorem node?_issue (resolution : KeyResolution) (node : String) (part : FieldSection)
    (key : String) : (resolution.issue node part key).node? = some node := by
  cases resolution <;> rfl

/-- What is recorded about a node. -/
def nodeIssues (source translated : NodeMap) (node : String) (schema : NodeSchema) :
    CorrectionLog :=
  FieldSection.all.flatMap fun part =>
    sectionIssues (.ofArtifacts source translated) (source.fieldsAt node part).keys node part
      (schema.fields part)

theorem log_about (source translated : NodeMap) (node : String) :
    (crossCheck source translated).log.about node =
      ((translated.get? node).map (nodeIssues source translated node)).getD [] := by
  have listed : (crossCheck source translated).log = translated.entries.flatMap fun entry =>
      nodeIssues source translated entry.1 entry.2 := by
    simp only [crossCheck, nodeIssues, sourceKeys_eq]
  rw [CorrectionLog.about, listed]
  refine Entries.filter_flatMap (nodeIssues source translated) Issue.node? ?_ translated.distinct
    node
  intro other schema issue member
  rcases List.mem_flatMap.1 member with ⟨part, -, member⟩
  rcases List.mem_map.1 member with ⟨key, -, rfl⟩
  exact node?_issue _ other part key

/-! ### What stands under the node keys -/

section

variable (sameSource : ∀ node, source.get? node = reordered.get? node)
  (sameNodes : ∀ node, translated.get? node = shuffled.get? node)

include sameSource sameNodes

theorem witnessed_congr {english han : String}
    (witnessed : NameTable.Witnessed source translated english han) :
    NameTable.Witnessed reordered shuffled english han := by
  have sourceFields := NodeMap.fieldsAt_congr sameSource
  have fields := NodeMap.fieldsAt_congr sameNodes
  cases witnessed with
  | identity own there isHan =>
    rw [sourceFields] at own
    rw [fields] at there
    exact .identity own there isHan
  | label there plain isHan =>
    rw [fields] at there
    exact .label there plain isHan
  | key there plain isHan =>
    rw [fields] at there
    exact .key there plain isHan

/-- The links may be found in another order, but they are the same. -/
theorem mem_links_congr (english han : String) :
    ⟨english, han⟩ ∈ (NameTable.ofArtifacts source translated).links ↔
      ⟨english, han⟩ ∈ (NameTable.ofArtifacts reordered shuffled).links := by
  rw [NameTable.mem_links_ofArtifacts, NameTable.mem_links_ofArtifacts]
  constructor
  · exact witnessed_congr sameSource sameNodes
  · exact witnessed_congr (fun node => (sameSource node).symm) fun node => (sameNodes node).symm

theorem ofKey_ofArtifacts_congr (sourceKeys : List String) (key : String) :
    KeyResolution.ofKey (.ofArtifacts source translated) sourceKeys key =
      KeyResolution.ofKey (.ofArtifacts reordered shuffled) sourceKeys key := by
  apply KeyResolution.ofKey_congr
  intro english
  exact mem_links_congr sameSource sameNodes english key

end

/-! ### Reordered artifacts -/

/-- Whether two cross checks come to the same about every node. -/
structure AgreeByNode (first second : CrossChecked) : Prop where
  nodes : ∀ node, first.nodes.get? node = second.nodes.get? node
  log : ∀ node, first.log.about node = second.log.about node
  corrected : first.correctionsMade = second.correctionsMade

theorem agreeByNode_of_get? (sameSource : ∀ node, source.get? node = reordered.get? node)
    (sameNodes : ∀ node, translated.get? node = shuffled.get? node) :
    AgreeByNode (crossCheck source translated) (crossCheck reordered shuffled) := by
  have resolved := ofKey_ofArtifacts_congr sameSource sameNodes
  have sourceFields := NodeMap.fieldsAt_congr sameSource
  have nodes : ∀ node, (crossCheck source translated).nodes.get? node =
      (crossCheck reordered shuffled).nodes.get? node := by
    intro node
    simp only [get?_nodes, sameNodes, sourceFields, restoredFields, restoredKey, resolved]
  have log : ∀ node, (crossCheck source translated).log.about node =
      (crossCheck reordered shuffled).log.about node := by
    intro node
    have issues : nodeIssues source translated node = nodeIssues reordered shuffled node := by
      funext schema
      simp only [nodeIssues, sourceFields, sectionIssues, resolved]
    rw [log_about, log_about, sameNodes, issues]
  refine ⟨nodes, log, ?_⟩
  rw [Bool.eq_iff_iff, correctionsMade_iff, correctionsMade_iff]
  constructor
  · rintro ⟨node, part, key, target, restored⟩
    rw [← CorrectionLog.restores_about, log] at restored
    exact ⟨node, part, key, target, CorrectionLog.restores_about.1 restored⟩
  · rintro ⟨node, part, key, target, restored⟩
    rw [← CorrectionLog.restores_about, ← log] at restored
    exact ⟨node, part, key, target, CorrectionLog.restores_about.1 restored⟩

/-- Reordering the nodes of either artifact changes nothing about any node. -/
theorem agreeByNode_of_perm (sourceOrder : source.entries.Perm reordered.entries)
    (nodeOrder : translated.entries.Perm shuffled.entries) :
    AgreeByNode (crossCheck source translated) (crossCheck reordered shuffled) :=
  agreeByNode_of_get? (OrderedMap.get?_eq_of_perm sourceOrder)
    (OrderedMap.get?_eq_of_perm nodeOrder)

/-- Two nodes have the same label for different keys, so that either order of them has another
source key for the Han name. -/
theorem agreeByNode_of_swapped :
    let source := inputsOnly [("Blend", [("image", "image")]), ("Blur", [("picture", "picture")])]
    let reordered := inputsOnly
      [("Blur", [("picture", "picture")]), ("Blend", [("image", "image")])]
    let translated := inputsOnly
      [("Blend", [("image", "图像")]), ("Blur", [("picture", "图像")]), ("Mix", [("图像", "图片")])]
    let shuffled := inputsOnly
      [("Mix", [("图像", "图片")]), ("Blur", [("picture", "图像")]), ("Blend", [("image", "图像")])]
    (crossCheck source translated).table.cnToEn ≠ (crossCheck reordered shuffled).table.cnToEn ∧
      AgreeByNode (crossCheck source translated) (crossCheck reordered shuffled) := by
  constructor
  · decide +kernel
  · apply agreeByNode_of_perm
    · decide +kernel
    · decide +kernel

end CrossCheck

end NodeLocale
