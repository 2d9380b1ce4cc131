import Mathlib.Data.List.Forall2
import NodeLocale.Proofs.Reconcile.DocumentOrder
import NodeLocale.Proofs.Reconcile.Restoration

/-!
# What a cross check decides

A cross check decides about every Han key of the translated artifact by the keys of the source
section alone: by those that the name table links to it or, if there are none, by those that it
links to it but for case. One such key is what the Han key is restored to, several are ambiguous,
and with none the Han key is unmapped. The log accounts for these decisions and nothing else, one
for each Han key in document order. Apart from the restored keys the artifact stays as it is.
-/

namespace NodeLocale

namespace KeyResolution

variable {table : NameTable} {sourceKeys : List String} {key target : String}

/-- The source keys that a table links to a Han key. -/
def linkedKeys (table : NameTable) (sourceKeys : List String) (key : String) : List String :=
  sourceKeys.filter fun source => ⟨source, key⟩ ∈ table.links

/-- The source keys that are the same in lower case as a name that a table links to a Han key. -/
def looselyLinkedKeys (table : NameTable) (sourceKeys : List String) (key : String) :
    List String :=
  sourceKeys.filter fun source =>
    ∃ link ∈ table.links, link.han = key ∧ Text.lower link.english = Text.lower source

theorem exactMatches_eq_linkedKeys :
    exactMatches sourceKeys (table.englishFor key) = linkedKeys table sourceKeys key := by
  simp only [exactMatches, linkedKeys, List.contains_eq_mem, NameTable.mem_englishFor]

theorem caseMatches_eq_looselyLinkedKeys :
    caseMatches sourceKeys (table.englishFor key) = looselyLinkedKeys table sourceKeys key := by
  apply List.filter_congr
  intro source _
  rw [List.contains_eq_mem, decide_eq_decide, List.mem_map]
  constructor
  · rintro ⟨english, linked, same⟩
    exact ⟨⟨english, key⟩, NameTable.mem_englishFor.1 linked, rfl, same⟩
  · rintro ⟨⟨english, han⟩, linked, rfl, same⟩
    exact ⟨english, NameTable.mem_englishFor.2 linked, same⟩

theorem candidates_eq :
    candidates table sourceKeys key =
      if linkedKeys table sourceKeys key = [] then looselyLinkedKeys table sourceKeys key
      else linkedKeys table sourceKeys key := by
  rw [candidates, exactMatches_eq_linkedKeys, caseMatches_eq_looselyLinkedKeys]
  cases linkedKeys table sourceKeys key <;> simp

theorem mem_of_mem_candidates (candidate : target ∈ candidates table sourceKeys key) :
    target ∈ sourceKeys := by
  rw [candidates_eq] at candidate
  split at candidate
  · exact List.mem_of_mem_filter candidate
  · exact List.mem_of_mem_filter candidate

end KeyResolution

open KeyResolution

/-- What may be recorded about a Han key: that it was restored to the only source key that is linked
to it or, if none is, linked to it but for case; that there are several; or that there is none. -/
inductive Decided (source : NodeMap) (table : NameTable) (field : FieldRef) : Issue → Prop
  | linked {target : String}
      (only : linkedKeys table (source.fieldsAt field.node field.part).keys field.key = [target]) :
      Decided source table field (.rekeyedEntry field.node field.part field.key target false)
  | loosely {target : String}
      (unlinked : linkedKeys table (source.fieldsAt field.node field.part).keys field.key = [])
      (only : looselyLinkedKeys table (source.fieldsAt field.node field.part).keys field.key =
        [target]) :
      Decided source table field (.rekeyedEntry field.node field.part field.key target true)
  | ambiguous {first second : String} {others : List String}
      (several : linkedKeys table (source.fieldsAt field.node field.part).keys field.key =
        first :: second :: others) :
      Decided source table field (.ambiguousKey field (first :: second :: others))
  | looselyAmbiguous {first second : String} {others : List String}
      (unlinked : linkedKeys table (source.fieldsAt field.node field.part).keys field.key = [])
      (several : looselyLinkedKeys table (source.fieldsAt field.node field.part).keys field.key =
        first :: second :: others) :
      Decided source table field (.ambiguousKey field (first :: second :: others))
  | unmapped
      (unlinked : linkedKeys table (source.fieldsAt field.node field.part).keys field.key = [])
      (unlinkedLoosely :
        looselyLinkedKeys table (source.fieldsAt field.node field.part).keys field.key = []) :
      Decided source table field (.unmappedKey field)

/-- What is recorded about a key is decided by the keys of its source section. -/
theorem decided_ofKey (source : NodeMap) (table : NameTable) (field : FieldRef) :
    Decided source table field
      ((ofKey table (source.fieldsAt field.node field.part).keys field.key).issue field.node
        field.part field.key) := by
  rw [ofKey_eq, candidates_eq, exactMatches_eq_linkedKeys]
  cases linked : linkedKeys table (source.fieldsAt field.node field.part).keys field.key with
  | nil =>
    rw [if_pos rfl]
    cases loosely :
        looselyLinkedKeys table (source.fieldsAt field.node field.part).keys field.key with
    | nil => exact .unmapped linked loosely
    | cons first others =>
      cases others with
      | nil => exact .loosely linked loosely
      | cons second others => exact .looselyAmbiguous linked loosely
  | cons first others =>
    rw [if_neg (List.cons_ne_nil first others)]
    cases others with
    | nil => exact .linked linked
    | cons second others => exact .ambiguous linked

namespace CrossCheck

variable {source translated : NodeMap} {node key : String} {part : FieldSection}

/-- The fields of an artifact that have a Han key, in document order. -/
def hanFields (translated : NodeMap) : List FieldRef :=
  translated.fieldRefs.filter fun field => Text.containsHan field.key

/-- The log holds the decision about each Han key. -/
theorem log_eq (source translated : NodeMap) :
    (crossCheck source translated).log = (hanFields translated).map fun field =>
      (ofKey (.ofArtifacts source translated) (source.fieldsAt field.node field.part).keys
        field.key).issue field.node field.part field.key := by
  simp only [crossCheck, sectionIssues, sourceKeys_eq, hanFields, NodeMap.fieldRefs,
    NodeSchema.fieldRefs, List.filter_flatMap, List.map_flatMap, List.filter_map, List.map_map,
    Function.comp_def]

/-- The keys of a corrected section are those to which a key was restored and those which were not
restored themselves. -/
theorem mem_keys_nodes_iff :
    key ∈ ((crossCheck source translated).nodes.fieldsAt node part).keys ↔
      (∃ other, (crossCheck source translated).log.Restores node part other key) ∨
      key ∈ (translated.fieldsAt node part).keys ∧
        ∀ target, ¬ (crossCheck source translated).log.Restores node part key target := by
  rw [mem_keys_fieldsAt_nodes]
  constructor
  · rintro ⟨own, present, keptThere⟩
    rcases keptKey_cases source present with ⟨target, restored, same⟩ | ⟨unrecorded, same⟩
    · obtain rfl := same.symm.trans keptThere
      exact Or.inl ⟨own, restored⟩
    · obtain rfl := same.symm.trans keptThere
      exact Or.inr ⟨present, unrecorded⟩
  · rintro (⟨other, restored⟩ | ⟨present, unrecorded⟩)
    · exact ⟨other, (restores_iff.1 restored).1, keptKey_of_restores restored⟩
    · exact ⟨key, present, keptKey_of_forall present unrecorded⟩

/-- The keys of a corrected section are known from the translated section or from the source. -/
theorem mem_keys_of_mem_keys_nodes
    (kept : key ∈ ((crossCheck source translated).nodes.fieldsAt node part).keys) :
    key ∈ (translated.fieldsAt node part).keys ∨ key ∈ (source.fieldsAt node part).keys := by
  rcases mem_keys_nodes_iff.1 kept with ⟨other, restored⟩ | ⟨present, -⟩
  · right
    rcases restores_iff.1 restored with ⟨-, -, only⟩
    apply mem_of_mem_candidates
    rw [only]
    exact List.mem_singleton_self key
  · exact Or.inl present

/-- Keys without Han characters stay where they are. -/
theorem mem_keys_nodes_of_plain (present : key ∈ (translated.fieldsAt node part).keys)
    (plain : Text.containsHan key = false) :
    key ∈ ((crossCheck source translated).nodes.fieldsAt node part).keys := by
  apply mem_keys_nodes_iff.2
  right
  refine ⟨present, ?_⟩
  intro target restored
  rcases restores_iff.1 restored with ⟨-, isHan, -⟩
  simp [plain] at isHan

/-- Whether a cross check accounts for what it did to an artifact: the nodes are the same but for
the keys of their sections, in which only known keys stand and no plain key is missing, and the log
holds one justified decision for every Han key, to which the keys keep. -/
structure Accountable (source translated : NodeMap) (checked : CrossChecked) : Prop where
  keys : checked.nodes.keys = translated.keys
  heads : ∀ node schema corrected, (node, schema) ∈ translated.entries →
    (node, corrected) ∈ checked.nodes.entries →
      corrected.title = schema.title ∧ corrected.sourceFile = schema.sourceFile
  plain : ∀ node part, ∀ key ∈ (translated.fieldsAt node part).keys,
    Text.containsHan key = false → key ∈ (checked.nodes.fieldsAt node part).keys
  known : ∀ node part, ∀ key ∈ (checked.nodes.fieldsAt node part).keys,
    key ∈ (translated.fieldsAt node part).keys ∨ key ∈ (source.fieldsAt node part).keys
  restored : ∀ node part key, key ∈ (checked.nodes.fieldsAt node part).keys ↔
    (∃ other, checked.log.Restores node part other key) ∨
    key ∈ (translated.fieldsAt node part).keys ∧
      ∀ target, ¬ checked.log.Restores node part key target
  /-- The Han keys are distinct places, so each of them has one entry. -/
  once : (hanFields translated).Nodup
  decided : List.Forall₂ (Decided source checked.table) (hanFields translated) checked.log
  corrected : checked.correctionsMade = true ↔ ∃ node part key target,
    checked.log.Restores node part key target

theorem accountable_crossCheck (source translated : NodeMap) :
    Accountable source translated (crossCheck source translated) := by
  constructor
  case keys => exact OrderedMap.keys_mapValues _ _
  case heads =>
    intro node schema corrected member correctedMember
    have found := OrderedMap.get?_eq_some_iff.2 correctedMember
    rw [get?_nodes, OrderedMap.get?_eq_some_iff.2 member, Option.map_some,
      Option.some.injEq] at found
    subst found
    exact ⟨rfl, rfl⟩
  case plain => exact fun node part key present plain => mem_keys_nodes_of_plain present plain
  case known => exact fun node part key kept => mem_keys_of_mem_keys_nodes kept
  case restored => exact fun node part key => mem_keys_nodes_iff
  case once => exact translated.nodup_fieldRefs.filter _
  case decided =>
    rw [log_eq, List.forall₂_map_right_iff, List.forall₂_same]
    exact fun field _ => decided_ofKey source _ field
  case corrected => exact correctionsMade_iff

/-- A Han key that is linked to a name of another node is restored to the key that is the same in
lower case. -/
example :
    (crossCheck (inputsOnly [("Blend", [("Image", "Image")]), ("Blur", [("image", "image")])])
      (inputsOnly [("Blend", [("Image", "图像")]), ("Blur", [("图像", "图片"), ("半径", "大小")])])).log =
        [.rekeyedEntry "Blur" .inputs "图像" "image" true,
          .unmappedKey ⟨"Blur", .inputs, "半径"⟩] := by
  decide +kernel

end CrossCheck

end NodeLocale
