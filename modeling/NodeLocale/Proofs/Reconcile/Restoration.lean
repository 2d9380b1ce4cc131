import Mathlib.Data.List.Nodup
import NodeLocale.Proofs.Basic
import NodeLocale.Proofs.Reconcile.Candidates
import NodeLocale.Proofs.Reconcile.Shape

/-!
# Restored keys

A cross check keeps every entry of the translated artifact under its own key, unless that is a Han
key which stands for a source key: then the entry is kept under the source key and this is recorded.
Entries that are kept under one key overwrite each other. So a section keeps all of its entries
exactly if no two of them are kept under the same key, which may happen when a Han key is restored
to a key that is there already, or when two Han keys stand for the same source key.

It makes no difference whether the source has the Han key as well.
-/

namespace NodeLocale

open KeyResolution

/-- Whether it is recorded that a key was restored. -/
def CorrectionLog.Restores (log : CorrectionLog) (node : String) (part : FieldSection)
    (key target : String) : Prop :=
  ∃ caseInsensitive, .rekeyedEntry node part key target caseInsensitive ∈ log

namespace CrossCheck

variable {source translated : NodeMap} {node key target label : String} {part : FieldSection}

theorem sourceKeys_eq (source : NodeMap) (node : String) (part : FieldSection) :
    sourceKeys source node part = (source.fieldsAt node part).keys := by
  rw [sourceKeys, NodeMap.fieldsAt]
  cases source.get? node <;> rfl

/-! ### The log -/

theorem issue_eq_rekeyedEntry {resolution : KeyResolution} {other otherKey : String}
    {otherPart : FieldSection} {caseInsensitive : Bool}
    (recorded : resolution.issue other otherPart otherKey =
      .rekeyedEntry node part key target caseInsensitive) :
    other = node ∧ otherPart = part ∧ otherKey = key ∧
      resolution = .found target caseInsensitive := by
  cases resolution with
  | found source loosely => simpa [issue] using recorded
  | ambiguous candidates => simp [issue] at recorded
  | unmapped => simp [issue] at recorded

/-- The keys that stand for a source key are restored, and no others. -/
theorem restores_iff :
    (crossCheck source translated).log.Restores node part key target ↔
      key ∈ (translated.fieldsAt node part).keys ∧
        StandsFor (.ofArtifacts source translated) (source.fieldsAt node part).keys key
          target := by
  simp only [CorrectionLog.Restores, crossCheck, List.mem_flatMap, sectionIssues, List.mem_map,
    List.mem_filter]
  constructor
  · rintro ⟨caseInsensitive, ⟨other, schema⟩, member, otherPart, -, otherKey, ⟨present, isHan⟩,
      recorded⟩
    rcases issue_eq_rekeyedEntry recorded with ⟨rfl, rfl, rfl, resolved⟩
    rw [sourceKeys_eq] at resolved
    rw [NodeMap.fieldsAt_of_mem member]
    exact ⟨present, isHan, (ofKey_eq_found_iff.1 resolved).1⟩
  · rintro ⟨present, isHan, only⟩
    rcases NodeMap.exists_of_mem_keys_fieldsAt present with ⟨schema, member, inSchema⟩
    have resolved := ofKey_eq_found_iff.2 ⟨only, rfl⟩
    rw [← sourceKeys_eq] at resolved
    refine ⟨_, (node, schema), member, part, part.mem_all, key, ⟨inSchema, isHan⟩,
      congrArg (issue node part key) resolved⟩

theorem restores_eq_true_iff {resolution : KeyResolution} :
    resolution.restores = true ↔
      ∃ target caseInsensitive, resolution = .found target caseInsensitive := by
  cases resolution <;> simp [restores]

/-- Corrections are reported if and only if the log has a restored key. -/
theorem correctionsMade_iff :
    (crossCheck source translated).correctionsMade = true ↔ ∃ node part key target,
      (crossCheck source translated).log.Restores node part key target := by
  simp only [CorrectionLog.Restores, crossCheck, List.any_eq_true, sectionCorrected,
    Bool.and_eq_true, restores_eq_true_iff, List.mem_flatMap, sectionIssues, List.mem_map,
    List.mem_filter]
  constructor
  · rintro ⟨⟨node, schema⟩, member, part, listed, key, present, isHan, target, loosely, resolved⟩
    exact ⟨node, part, key, target, loosely, (node, schema), member, part, listed, key,
      ⟨present, isHan⟩, congrArg (issue node part key) resolved⟩
  · rintro ⟨node, part, key, target, loosely, entry, member, otherPart, listed, otherKey,
      ⟨present, isHan⟩, recorded⟩
    rcases issue_eq_rekeyedEntry recorded with ⟨-, -, -, resolved⟩
    exact ⟨entry, member, otherPart, listed, otherKey, present, isHan, target, loosely, resolved⟩

/-! ### The key under which an entry is kept -/

/-- The key under which the entry of a key is kept. -/
def keptKey (source translated : NodeMap) (node : String) (part : FieldSection)
    (key : String) : String :=
  restoredKey (.ofArtifacts source translated) (source.fieldsAt node part).keys key

theorem keptKey_of_restores
    (restored : (crossCheck source translated).log.Restores node part key target) :
    keptKey source translated node part key = target := by
  rcases restores_iff.1 restored with ⟨-, isHan, only⟩
  rw [keptKey, restoredKey, if_pos isHan, ofKey_eq_found_iff.2 ⟨only, rfl⟩, keyFor]

theorem keptKey_of_forall (present : key ∈ (translated.fieldsAt node part).keys)
    (unrecorded : ∀ target,
      ¬ (crossCheck source translated).log.Restores node part key target) :
    keptKey source translated node part key = key := by
  rw [keptKey, restoredKey]
  split
  · rename_i isHan
    apply keyFor_ofKey_of_forall
    intro target only
    exact unrecorded target (restores_iff.2 ⟨present, isHan, only⟩)
  · rfl

/-- An entry is kept under the key to which its key is restored, or else under its own key. -/
theorem keptKey_cases (source : NodeMap) (present : key ∈ (translated.fieldsAt node part).keys) :
    (∃ target, (crossCheck source translated).log.Restores node part key target ∧
      keptKey source translated node part key = target) ∨
    (∀ target, ¬ (crossCheck source translated).log.Restores node part key target) ∧
      keptKey source translated node part key = key := by
  by_cases restored : ∃ target,
      (crossCheck source translated).log.Restores node part key target
  · rcases restored with ⟨target, restored⟩
    exact Or.inl ⟨target, restored, keptKey_of_restores restored⟩
  · have unrecorded := not_exists.1 restored
    exact Or.inr ⟨unrecorded, keptKey_of_forall present unrecorded⟩

/-! ### Corrected sections -/

/-- The entries of a section under the keys under which they are kept. -/
def keptEntries (source translated : NodeMap) (node : String) (part : FieldSection) :
    List (String × String) :=
  (translated.fieldsAt node part).entries.map fun entry =>
    (keptKey source translated node part entry.1, entry.2)

theorem keys_keptEntries : (keptEntries source translated node part).map Prod.fst =
    (translated.fieldsAt node part).keys.map (keptKey source translated node part) := by
  simp [keptEntries, OrderedMap.keys]

theorem mem_keptEntries : (target, label) ∈ keptEntries source translated node part ↔
    ∃ key, (translated.fieldsAt node part).get? key = some label ∧
      keptKey source translated node part key = target := by
  rw [keptEntries, List.mem_map]
  constructor
  · rintro ⟨⟨key, value⟩, member, same⟩
    obtain ⟨rfl, rfl⟩ := Prod.mk.inj same
    exact ⟨key, OrderedMap.get?_eq_some_iff.2 member, rfl⟩
  · rintro ⟨key, held, rfl⟩
    exact ⟨(key, label), OrderedMap.get?_eq_some_iff.1 held, rfl⟩

theorem get?_nodes (source translated : NodeMap) (node : String) :
    (crossCheck source translated).nodes.get? node =
      (translated.get? node).map fun schema => schema.withFields fun part =>
        restoredFields (.ofArtifacts source translated) (source.fieldsAt node part).keys
          (schema.fields part) := by
  simp only [crossCheck, OrderedMap.get?_mapValues, sourceKeys_eq]

/-- A corrected section is collected from the kept entries. -/
theorem fieldsAt_nodes (source translated : NodeMap) (node : String) (part : FieldSection) :
    (crossCheck source translated).nodes.fieldsAt node part =
      .ofList (keptEntries source translated node part) := by
  rw [keptEntries, NodeMap.fieldsAt, get?_nodes, NodeMap.fieldsAt]
  cases translated.get? node with
  | none => rfl
  | some schema =>
    rw [Option.map_some]
    exact NodeSchema.fields_withFields schema _ part

theorem mem_keys_fieldsAt_nodes :
    target ∈ ((crossCheck source translated).nodes.fieldsAt node part).keys ↔
      ∃ key ∈ (translated.fieldsAt node part).keys,
        keptKey source translated node part key = target := by
  rw [fieldsAt_nodes, OrderedMap.mem_keys_ofList, keys_keptEntries, List.mem_map]

theorem exists_of_get?_fieldsAt_nodes
    (kept : ((crossCheck source translated).nodes.fieldsAt node part).get? target = some label) :
    ∃ key, (translated.fieldsAt node part).get? key = some label ∧
      keptKey source translated node part key = target := by
  rw [fieldsAt_nodes] at kept
  exact mem_keptEntries.1 (OrderedMap.mem_of_get?_ofList kept)

/-- An entry is found under the key under which no other entry is kept. -/
theorem get?_fieldsAt_nodes (held : (translated.fieldsAt node part).get? key = some label)
    (only : ∀ other ∈ (translated.fieldsAt node part).keys,
      keptKey source translated node part other = keptKey source translated node part key →
        other = key) :
    ((crossCheck source translated).nodes.fieldsAt node part).get?
      (keptKey source translated node part key) = some label := by
  rw [fieldsAt_nodes]
  apply OrderedMap.get?_ofList_of_unique
  · exact mem_keptEntries.2 ⟨key, held, rfl⟩
  · intro value written
    rcases mem_keptEntries.1 written with ⟨other, otherHeld, same⟩
    obtain rfl := only other (OrderedMap.mem_keys_iff_exists.2 ⟨value, otherHeld⟩) same
    exact Option.some.inj (otherHeld.symm.trans held)

/-- An entry stays in place if its key is not restored and no key is restored to it. -/
theorem get?_fieldsAt_nodes_of_forall
    (held : (translated.fieldsAt node part).get? key = some label)
    (unrecorded : ∀ target,
      ¬ (crossCheck source translated).log.Restores node part key target)
    (alone : ∀ other, ¬ (crossCheck source translated).log.Restores node part other key) :
    ((crossCheck source translated).nodes.fieldsAt node part).get? key = some label := by
  have own := keptKey_of_forall (OrderedMap.mem_keys_iff_exists.2 ⟨label, held⟩) unrecorded
  have only : ∀ other ∈ (translated.fieldsAt node part).keys,
      keptKey source translated node part other = keptKey source translated node part key →
        other = key := by
    intro other present same
    rw [own] at same
    rcases keptKey_cases source present with ⟨target, restored, sameTarget⟩ | ⟨-, otherOwn⟩
    · obtain rfl := sameTarget.symm.trans same
      exact absurd restored (alone other)
    · exact otherOwn.symm.trans same
  have kept := get?_fieldsAt_nodes held only
  rwa [own] at kept

/-! ### Entries that overwrite each other -/

/-- Whether a section keeps all of its entries: it has as many as before, and the label of each is
found under its own key or under the key to which it was restored. -/
structure KeepsEntries (source translated : NodeMap) (node : String) (part : FieldSection) :
    Prop where
  size : ((crossCheck source translated).nodes.fieldsAt node part).size =
    (translated.fieldsAt node part).size
  found : ∀ key label, (translated.fieldsAt node part).get? key = some label →
    ((crossCheck source translated).nodes.fieldsAt node part).get? key = some label ∨
      ∃ target, (crossCheck source translated).log.Restores node part key target ∧
        ((crossCheck source translated).nodes.fieldsAt node part).get? target = some label

theorem size_fieldsAt_nodes_iff :
    ((crossCheck source translated).nodes.fieldsAt node part).size =
        (translated.fieldsAt node part).size ↔
      ∀ first ∈ (translated.fieldsAt node part).keys,
      ∀ second ∈ (translated.fieldsAt node part).keys,
        keptKey source translated node part first = keptKey source translated node part second →
          first = second := by
  have length : (translated.fieldsAt node part).size =
      (keptEntries source translated node part).length := by
    simp [OrderedMap.size, keptEntries]
  rw [fieldsAt_nodes, length, OrderedMap.size_ofList_eq_iff, keys_keptEntries]
  exact List.nodup_map_iff_inj_on (translated.fieldsAt node part).distinct

/-- A section keeps all of its entries exactly if no two of them are kept under the same key. -/
theorem keepsEntries_iff :
    KeepsEntries source translated node part ↔
      ∀ first ∈ (translated.fieldsAt node part).keys,
      ∀ second ∈ (translated.fieldsAt node part).keys,
        keptKey source translated node part first = keptKey source translated node part second →
          first = second := by
  constructor
  · exact fun keeps => size_fieldsAt_nodes_iff.1 keeps.size
  · intro apart
    constructor
    case size => exact size_fieldsAt_nodes_iff.2 apart
    case found =>
      intro key label held
      have present := OrderedMap.mem_keys_iff_exists.2 ⟨label, held⟩
      have kept := get?_fieldsAt_nodes held fun other otherPresent same =>
        apart other otherPresent key present same
      rcases keptKey_cases source present with ⟨target, restored, same⟩ | ⟨-, own⟩
      · rw [same] at kept
        exact Or.inr ⟨target, restored, kept⟩
      · rw [own] at kept
        exact Or.inl kept

/-- An artifact whose nodes have inputs only. -/
def inputsOnly (nodes : List (String × List (String × String))) : NodeMap :=
  .ofList (nodes.map fun entry => (entry.1, { title := entry.1, inputs := .ofList entry.2 }))

/-- A Han key is restored to the key beside it, and its entry is lost. -/
theorem entry_lost_of_twin :
    ¬ KeepsEntries (inputsOnly [("Blur", [("image", "image")])])
      (inputsOnly [("Blur", [("图像", "图片"), ("image", "图像")])]) "Blur" .inputs := by
  intro keeps
  have size := keeps.size
  revert size
  decide +kernel

/-! ### Han keys of the source -/

/-- Whether an entry is left alone: it is kept under its own key, nothing is recorded about a
restoration of the key, and if corrections were made then at other keys. -/
structure LeftAlone (source translated : NodeMap) (node : String) (part : FieldSection)
    (key label : String) : Prop where
  held : key ∈ ((crossCheck source translated).nodes.fieldsAt node part).keys
  labelled : (∀ other, ¬ (crossCheck source translated).log.Restores node part other key) →
    ((crossCheck source translated).nodes.fieldsAt node part).get? key = some label
  unrecorded : ∀ target, ¬ (crossCheck source translated).log.Restores node part key target
  uncounted : (crossCheck source translated).correctionsMade = true →
    ∃ otherNode otherPart other target, (otherNode, otherPart, other) ≠ (node, part, key) ∧
      (crossCheck source translated).log.Restores otherNode otherPart other target

theorem leftAlone_of_forall (held : (translated.fieldsAt node part).get? key = some label)
    (unrecorded : ∀ target,
      ¬ (crossCheck source translated).log.Restores node part key target) :
    LeftAlone source translated node part key label := by
  have present := OrderedMap.mem_keys_iff_exists.2 ⟨label, held⟩
  constructor
  case held => exact mem_keys_fieldsAt_nodes.2 ⟨key, present, keptKey_of_forall present unrecorded⟩
  case labelled => exact get?_fieldsAt_nodes_of_forall held unrecorded
  case unrecorded => exact unrecorded
  case uncounted =>
    intro made
    rcases correctionsMade_iff.1 made with ⟨otherNode, otherPart, other, target, restored⟩
    refine ⟨otherNode, otherPart, other, target, ?_, restored⟩
    intro same
    obtain ⟨rfl, rfl, rfl⟩ : otherNode = node ∧ otherPart = part ∧ other = key := by
      simpa using same
    exact unrecorded target restored

/-- A Han key that the source has as well is left alone exactly if it does not stand for one of the
keys there, and it is restored to the key that it stands for. If it is linked to itself, it stays in
any case. -/
theorem leftAlone_iff (shared : key ∈ (source.fieldsAt node part).keys)
    (held : (translated.fieldsAt node part).get? key = some label)
    (isHan : Text.containsHan key = true) :
    (LeftAlone source translated node part key label ↔
      ∀ target, candidates (.ofArtifacts source translated) (source.fieldsAt node part).keys key ≠
        [target]) ∧
    (∀ target, candidates (.ofArtifacts source translated) (source.fieldsAt node part).keys key =
        [target] → (crossCheck source translated).log.Restores node part key target) ∧
    (⟨key, key⟩ ∈ (NameTable.ofArtifacts source translated).links →
      key ∈ ((crossCheck source translated).nodes.fieldsAt node part).keys) := by
  have present := OrderedMap.mem_keys_iff_exists.2 ⟨label, held⟩
  refine ⟨⟨?_, ?_⟩, ?_, ?_⟩
  · intro alone target only
    exact alone.unrecorded target (restores_iff.2 ⟨present, isHan, only⟩)
  · intro several
    apply leftAlone_of_forall held
    intro target restored
    exact several target (restores_iff.1 restored).2.2
  · intro target only
    exact restores_iff.2 ⟨present, isHan, only⟩
  · intro linked
    have candidate := mem_candidates_of_mem_links linked shared
    apply mem_keys_fieldsAt_nodes.2
    refine ⟨key, present, ?_⟩
    rcases keptKey_cases source present with ⟨target, restored, same⟩ | ⟨-, own⟩
    · rw [(restores_iff.1 restored).2.2, List.mem_singleton] at candidate
      rw [same, candidate]
    · exact own

/-- A node with a Han key of its own beside two English ones. -/
def bilingual : NodeMap :=
  inputsOnly [("Blend", [("image", "image"), ("picture", "picture")]),
    ("Blur", [("图像", "图像"), ("image", "image"), ("picture", "picture")])]

/-- The Han key is linked to both English keys of its node, so it is left alone. -/
theorem leftAlone_of_ambiguous :
    LeftAlone bilingual
      (inputsOnly [("Blend", [("image", "图像"), ("picture", "图像")]), ("Blur", [("图像", "图片")])])
      "Blur" .inputs "图像" "图片" := by
  have several : candidates (.ofArtifacts bilingual
      (inputsOnly [("Blend", [("image", "图像"), ("picture", "图像")]), ("Blur", [("图像", "图片")])]))
      (bilingual.fieldsAt "Blur" .inputs).keys "图像" = ["image", "picture"] := by decide +kernel
  apply (leftAlone_iff (by decide +kernel) (by decide +kernel) (by decide +kernel)).1.2
  intro target only
  simp [several] at only

/-- The Han key is linked to an English key of its node by the entry of another node. -/
theorem restored_of_linkElsewhere :
    let translated := inputsOnly [("Blend", [("image", "图像")]), ("Blur", [("图像", "图片")])]
    let checked := crossCheck bilingual translated
    Text.containsHan "图像" = true ∧ "图像" ∈ (bilingual.fieldsAt "Blur" .inputs).keys ∧
      (translated.fieldsAt "Blur" .inputs).get? "图像" = some "图片" ∧
      (checked.nodes.fieldsAt "Blur" .inputs).get? "图像" = none ∧
      checked.log.Restores "Blur" .inputs "图像" "image" ∧ checked.correctionsMade = true := by
  refine ⟨?_, ?_, ?_, ?_, ⟨false, ?_⟩, ?_⟩
  all_goals decide +kernel

end CrossCheck

end NodeLocale
