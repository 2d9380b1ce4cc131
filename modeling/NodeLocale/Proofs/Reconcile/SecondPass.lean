import NodeLocale.Proofs.Reconcile.Restoration

/-!
# Checking a corrected artifact again

A second cross check starts from the artifact that the first one corrected. It changes nothing
exactly if that artifact is settled: none of its Han keys stands for a source key by the links of
the artifact itself. The first cross check does not settle every artifact, because an entry that it
restored may have brought in a link that was not there before or taken one away. It does if what it
restored is isolated, which means that no restored entry links or unlinks a Han key that stays.
-/

namespace NodeLocale

open KeyResolution

namespace CrossCheck

variable {source translated artifact : NodeMap} {node key target label english han : String}
  {part : FieldSection}

/-- Whether no Han key of an artifact stands for a source key. -/
def Settled (source artifact : NodeMap) : Prop :=
  ∀ node part, ∀ key ∈ (artifact.fieldsAt node part).keys, ∀ target,
    ¬ StandsFor (.ofArtifacts source artifact) (source.fieldsAt node part).keys key target

theorem Settled.not_restores (settled : Settled source artifact) :
    ¬ (crossCheck source artifact).log.Restores node part key target := by
  intro restored
  rcases restores_iff.1 restored with ⟨present, stands⟩
  exact settled node part key present target stands

theorem correctionsMade_eq_false_iff :
    (crossCheck source artifact).correctionsMade = false ↔ Settled source artifact := by
  rw [← Bool.not_eq_true, correctionsMade_iff]
  constructor
  · intro none node part key present target stands
    exact none ⟨node, part, key, target, restores_iff.2 ⟨present, stands⟩⟩
  · rintro settled ⟨node, part, key, target, restored⟩
    exact settled.not_restores restored

theorem Settled.fieldsAt_eq (settled : Settled source artifact) (node : String)
    (part : FieldSection) :
    (crossCheck source artifact).nodes.fieldsAt node part = artifact.fieldsAt node part := by
  have own : keptEntries source artifact node part =
      (artifact.fieldsAt node part).entries.map id := by
    apply List.map_congr_left
    rintro ⟨key, label⟩ member
    have present : key ∈ (artifact.fieldsAt node part).keys := List.mem_map_of_mem member
    rw [keptKey_of_forall present fun target => settled.not_restores, id]
  rw [fieldsAt_nodes, own, List.map_id, OrderedMap.ofList_entries]

/-- A cross check of a settled artifact gives it back. -/
theorem Settled.nodes_eq (settled : Settled source artifact) :
    (crossCheck source artifact).nodes = artifact := by
  have keys : (crossCheck source artifact).nodes.keys = artifact.keys :=
    OrderedMap.keys_mapValues _ _
  apply OrderedMap.eq_of_keys_of_get? keys
  intro node present
  rcases OrderedMap.mem_keys_iff_exists.1 present with ⟨corrected, kept⟩
  rcases OrderedMap.mem_keys_iff_exists.1 (keys ▸ present) with ⟨schema, found⟩
  have made := kept
  rw [get?_nodes, found, Option.map_some, Option.some.injEq] at made
  have same : corrected = schema := by
    apply NodeSchema.ext_fields
    case title => rw [← made, NodeSchema.withFields]
    case fields =>
      intro part
      have fields := settled.fieldsAt_eq node part
      rwa [NodeMap.fieldsAt_of_mem (OrderedMap.get?_eq_some_iff.1 kept),
        NodeMap.fieldsAt_of_mem (OrderedMap.get?_eq_some_iff.1 found)] at fields
    case sourceFile => rw [← made, NodeSchema.withFields]
  rw [kept, found, same]

/-! ### What the first cross check passes by -/

/-- An entry is in the corrected section exactly if it was in the section before, unless it was
restored to another key, or another entry was restored to its key. -/
theorem get?_fieldsAt_nodes_iff
    (apart : ∀ other otherLabel target,
      (translated.fieldsAt node part).get? other = some otherLabel →
      (crossCheck source translated).log.Restores node part other target →
        (other = key → otherLabel ≠ label) ∧
        (target = key → otherLabel ≠ label ∧
          (translated.fieldsAt node part).get? key ≠ some label)) :
    ((crossCheck source translated).nodes.fieldsAt node part).get? key = some label ↔
      (translated.fieldsAt node part).get? key = some label := by
  constructor
  · intro kept
    rcases exists_of_get?_fieldsAt_nodes kept with ⟨other, held, keptThere⟩
    rcases keptKey_cases source (OrderedMap.mem_keys_iff_exists.2 ⟨label, held⟩) with
      ⟨target, restored, same⟩ | ⟨-, own⟩
    · have ways := apart other label target held restored
      exact absurd rfl (ways.2 (same.symm.trans keptThere)).1
    · rw [own] at keptThere
      rwa [keptThere] at held
  · intro held
    apply get?_fieldsAt_nodes_of_forall held
    case unrecorded =>
      intro target restored
      exact (apart key label target held restored).1 rfl rfl
    case alone =>
      intro other restored
      rcases OrderedMap.mem_keys_iff_exists.1 (restores_iff.1 restored).1 with
        ⟨otherLabel, otherHeld⟩
      exact ((apart other otherLabel key otherHeld restored).2 rfl).2 held

/-- Whether a Han key is none of the names that restoring an entry links or unlinks. The key of the
entry counts only if its label is not Han, because otherwise the key was not linked to the label. -/
structure NamesApart (fields : FieldMap) (key target label han : String) : Prop where
  label_ne : label ≠ han
  target_ne : target ≠ han
  key_ne : Text.containsHan label = false → key ≠ han
  overwritten_ne : fields.get? target ≠ some han

/-- Whether no restored entry links or unlinks a Han key. -/
def Untouched (source translated : NodeMap) (han : String) : Prop :=
  ∀ node part key target label, (crossCheck source translated).log.Restores node part key target →
    (translated.fieldsAt node part).get? key = some label →
      NamesApart (translated.fieldsAt node part) key target label han

/-- Whether no restored entry links or unlinks a Han key of the corrected artifact. -/
def Isolated (source translated : NodeMap) : Prop :=
  ∀ node part, ∀ han ∈ ((crossCheck source translated).nodes.fieldsAt node part).keys,
    Text.containsHan han = true → Untouched source translated han

/-- An untouched Han key has the same links as before. -/
theorem mem_links_nodes_iff (untouched : Untouched source translated han) :
    ⟨english, han⟩ ∈ (NameTable.ofArtifacts source (crossCheck source translated).nodes).links ↔
      ⟨english, han⟩ ∈ (NameTable.ofArtifacts source translated).links := by
  have asLabel : ∀ node part,
      ((crossCheck source translated).nodes.fieldsAt node part).get? english = some han ↔
        (translated.fieldsAt node part).get? english = some han := by
    intro node part
    apply get?_fieldsAt_nodes_iff
    intro other otherLabel target held restored
    have names := untouched node part other target otherLabel restored held
    constructor
    · exact fun _ => names.label_ne
    · rintro rfl
      exact ⟨names.label_ne, names.overwritten_ne⟩
  have asKey : Text.containsHan english = false → ∀ node part,
      (((crossCheck source translated).nodes.fieldsAt node part).get? han = some english ↔
        (translated.fieldsAt node part).get? han = some english) := by
    intro plain node part
    apply get?_fieldsAt_nodes_iff
    intro other otherLabel target held restored
    have names := untouched node part other target otherLabel restored held
    constructor
    · rintro same rfl
      exact names.key_ne plain same
    · exact fun same => absurd same names.target_ne
  rw [NameTable.mem_links_ofArtifacts, NameTable.mem_links_ofArtifacts]
  constructor
  · intro witnessed
    cases witnessed with
    | identity own there isHan => exact .identity own ((asLabel _ _).1 there) isHan
    | label there plain isHan => exact .label ((asLabel _ _).1 there) plain isHan
    | key there plain isHan => exact .key ((asKey plain _ _).1 there) plain isHan
  · intro witnessed
    cases witnessed with
    | identity own there isHan => exact .identity own ((asLabel _ _).2 there) isHan
    | label there plain isHan => exact .label ((asLabel _ _).2 there) plain isHan
    | key there plain isHan => exact .key ((asKey plain _ _).2 there) plain isHan

theorem Isolated.settled (isolated : Isolated source translated) :
    Settled source (crossCheck source translated).nodes := by
  intro node part han kept target stands
  have untouched := isolated node part han kept stands.1
  have before : StandsFor (.ofArtifacts source translated) (source.fieldsAt node part).keys
      han target :=
    ⟨stands.1, (candidates_congr fun english => mem_links_nodes_iff untouched).symm.trans stands.2⟩
  -- a key that stays was not restored itself, and no other key was restored to it
  rcases mem_keys_fieldsAt_nodes.1 kept with ⟨key, present, keptThere⟩
  rcases keptKey_cases source present with ⟨other, restored, same⟩ | ⟨unrecorded, own⟩
  · rcases OrderedMap.mem_keys_iff_exists.1 present with ⟨label, held⟩
    have names := untouched node part key other label restored held
    exact names.target_ne (same.symm.trans keptThere)
  · obtain rfl := own.symm.trans keptThere
    exact unrecorded target (restores_iff.2 ⟨present, before⟩)

/-! ### The second cross check -/

/-- Checking a corrected artifact again changes nothing exactly if it is settled, and that it is if
what the first cross check restored is isolated. -/
theorem secondPass_iff (source translated : NodeMap) :
    let first := crossCheck source translated
    let second := crossCheck source first.nodes
    ((second.nodes = first.nodes ∧ second.correctionsMade = false) ↔
      Settled source first.nodes) ∧
    (Isolated source translated →
      second.nodes = first.nodes ∧ second.correctionsMade = false) := by
  intro first second
  have settledIff : (second.nodes = first.nodes ∧ second.correctionsMade = false) ↔
      Settled source first.nodes := by
    constructor
    · exact fun unchanged => correctionsMade_eq_false_iff.1 unchanged.2
    · exact fun settled => ⟨settled.nodes_eq, correctionsMade_eq_false_iff.2 settled⟩
  exact ⟨settledIff, fun isolated => settledIff.2 isolated.settled⟩

/-- A key is restored beside a Han key that stays, and the second cross check changes nothing. -/
theorem secondPass_unchanged_of_unmapped :
    let source := inputsOnly [("Blend", [("image", "image")]),
      ("Blur", [("image", "image"), ("radius", "radius")])]
    let translated := inputsOnly [("Blend", [("image", "图像")]),
      ("Blur", [("图像", "图片"), ("半径", "大小")])]
    let first := crossCheck source translated
    let second := crossCheck source first.nodes
    first.correctionsMade = true ∧ second.nodes = first.nodes ∧
      second.correctionsMade = false := by
  intro source translated first second
  have log : first.log = [.rekeyedEntry "Blur" .inputs "图像" "image" false,
      .unmappedKey ⟨"Blur", .inputs, "半径"⟩] := by decide +kernel
  have staying : ∀ entry ∈ first.nodes.entries, ∀ part ∈ FieldSection.all,
      ∀ han ∈ (entry.2.fields part).keys, Text.containsHan han = true → han = "半径" := by
    decide +kernel
  have label : (translated.fieldsAt "Blur" .inputs).get? "图像" = some "图片" := by decide +kernel
  have overwritten : (translated.fieldsAt "Blur" .inputs).get? "image" = none := by
    decide +kernel
  have isolated : Isolated source translated := by
    rintro other otherPart han kept isHan node part key target value ⟨_, recorded⟩ held
    rcases NodeMap.exists_of_mem_keys_fieldsAt kept with ⟨schema, member, present⟩
    obtain rfl := staying (other, schema) member otherPart otherPart.mem_all han present isHan
    change _ ∈ first.log at recorded
    simp only [log, List.mem_cons, List.not_mem_nil, or_false, reduceCtorEq,
      Issue.rekeyedEntry.injEq] at recorded
    rcases recorded with ⟨rfl, rfl, rfl, rfl, rfl⟩
    obtain rfl := Option.some.inj (label.symm.trans held)
    constructor
    case label_ne => decide
    case target_ne => decide
    case key_ne => exact fun _ => by decide
    case overwritten_ne => simp [overwritten]
  exact ⟨by decide +kernel, (secondPass_iff source translated).2 isolated⟩

/-- The entry of one node that is restored first links the Han key of another. -/
theorem secondPass_restores_linkedKey :
    let source := inputsOnly [("Blend", [("image", "image")]), ("Blur", [("image", "image")]),
      ("Mix", [("image", "image")])]
    let translated := inputsOnly [("Blend", [("image", "图像")]), ("Blur", [("图像", "图片")]),
      ("Mix", [("图片", "图片")])]
    let first := crossCheck source translated
    let second := crossCheck source first.nodes
    second.nodes ≠ first.nodes ∧ second.correctionsMade = true := by
  decide +kernel

end CrossCheck

end NodeLocale
