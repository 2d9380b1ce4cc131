import NodeLocale.Reconcile.CrossCheck

/-!
# Which names are linked

Two artifacts link an English name to a Han name if one of three entries witnesses it: an entry that
stands for itself in the source and has the Han name for its label in the translated artifact, or a
translated entry with the English name for its key and the Han name for its label, or the other way
round. The name table holds these links and no others.
-/

namespace NodeLocale

/-- The fields of a section of a node, none if there is no such node. -/
def NodeMap.fieldsAt (nodes : NodeMap) (node : String) (part : FieldSection) : FieldMap :=
  match nodes.get? node with
  | some schema => schema.fields part
  | none => ∅

theorem NodeMap.fieldsAt_of_mem {nodes : NodeMap} {node : String} {schema : NodeSchema}
    (member : (node, schema) ∈ nodes.entries) (part : FieldSection) :
    nodes.fieldsAt node part = schema.fields part := by
  rw [fieldsAt, OrderedMap.get?_eq_some_iff.2 member]

/-- Only nodes that there are have fields. -/
theorem NodeMap.exists_of_get?_fieldsAt {nodes : NodeMap} {node key label : String}
    {part : FieldSection} (found : (nodes.fieldsAt node part).get? key = some label) :
    ∃ schema, (node, schema) ∈ nodes.entries ∧ (schema.fields part).get? key = some label := by
  rw [fieldsAt] at found
  split at found
  · rename_i schema there
    exact ⟨schema, OrderedMap.get?_eq_some_iff.1 there, found⟩
  · simp [EmptyCollection.emptyCollection, OrderedMap.empty, OrderedMap.get?, Entries.find?]
      at found

theorem NodeMap.exists_of_mem_keys_fieldsAt {nodes : NodeMap} {node key : String}
    {part : FieldSection} (present : key ∈ (nodes.fieldsAt node part).keys) :
    ∃ schema, (node, schema) ∈ nodes.entries ∧ key ∈ (schema.fields part).keys := by
  rcases OrderedMap.mem_keys_iff_exists.1 present with ⟨label, found⟩
  rcases exists_of_get?_fieldsAt found with ⟨schema, member, held⟩
  exact ⟨schema, member, OrderedMap.mem_keys_iff_exists.2 ⟨label, held⟩⟩

theorem FieldSection.mem_all (part : FieldSection) : part ∈ FieldSection.all := by
  cases part <;> decide

namespace NameTable

variable {source translated : NodeMap} {table : NameTable} {english han key label : String}

theorem mem_englishFor :
    english ∈ table.englishFor han ↔ ⟨english, han⟩ ∈ table.links := by
  rw [englishFor, List.mem_eraseDups, List.mem_map]
  constructor
  · rintro ⟨link, member, rfl⟩
    simp only [List.mem_filter, decide_eq_true_eq] at member
    rcases member with ⟨member, rfl⟩
    exact member
  · intro member
    exact ⟨⟨english, han⟩, by simp [member], rfl⟩

/-- Whether an entry of two artifacts links an English name to a Han name. -/
inductive Witnessed (source translated : NodeMap) (english han : String) : Prop
  | identity {node : String} {part : FieldSection}
      (own : (source.fieldsAt node part).get? english = some english)
      (there : (translated.fieldsAt node part).get? english = some han)
      (isHan : Text.containsHan han = true)
  | label {node : String} {part : FieldSection}
      (there : (translated.fieldsAt node part).get? english = some han)
      (plain : Text.containsHan english = false) (isHan : Text.containsHan han = true)
  | key {node : String} {part : FieldSection}
      (there : (translated.fieldsAt node part).get? han = some english)
      (plain : Text.containsHan english = false) (isHan : Text.containsHan han = true)

theorem entryLink?_eq_some_iff :
    entryLink? key label = some ⟨english, han⟩ ↔
      Text.containsHan english = false ∧ Text.containsHan han = true ∧
        ((key = english ∧ label = han) ∨ (key = han ∧ label = english)) := by
  constructor
  · intro linked
    rw [entryLink?] at linked
    split at linked
    · rename_i keyPlain labelHan
      obtain ⟨rfl, rfl⟩ := NameLink.mk.inj (Option.some.inj linked)
      exact ⟨keyPlain, labelHan, Or.inl ⟨rfl, rfl⟩⟩
    · rename_i keyHan labelPlain
      obtain ⟨rfl, rfl⟩ := NameLink.mk.inj (Option.some.inj linked)
      exact ⟨labelPlain, keyHan, Or.inr ⟨rfl, rfl⟩⟩
    · simp at linked
  · rintro ⟨plain, isHan, ⟨rfl, rfl⟩ | ⟨rfl, rfl⟩⟩ <;> simp [entryLink?, plain, isHan]

theorem mem_sectionLinks_iff {fields : FieldMap} :
    ⟨english, han⟩ ∈ sectionLinks fields ↔
      Text.containsHan english = false ∧ Text.containsHan han = true ∧
        (fields.get? english = some han ∨ fields.get? han = some english) := by
  rw [sectionLinks, List.mem_filterMap]
  constructor
  · rintro ⟨⟨key, label⟩, member, linked⟩
    rcases entryLink?_eq_some_iff.1 linked with ⟨plain, isHan, ⟨rfl, rfl⟩ | ⟨rfl, rfl⟩⟩
    · exact ⟨plain, isHan, Or.inl (OrderedMap.get?_eq_some_iff.2 member)⟩
    · exact ⟨plain, isHan, Or.inr (OrderedMap.get?_eq_some_iff.2 member)⟩
  · rintro ⟨plain, isHan, found | found⟩
    · exact ⟨_, OrderedMap.get?_eq_some_iff.1 found,
        entryLink?_eq_some_iff.2 ⟨plain, isHan, Or.inl ⟨rfl, rfl⟩⟩⟩
    · exact ⟨_, OrderedMap.get?_eq_some_iff.1 found,
        entryLink?_eq_some_iff.2 ⟨plain, isHan, Or.inr ⟨rfl, rfl⟩⟩⟩

theorem mem_identityLinks_iff {own fields : FieldMap} :
    ⟨english, han⟩ ∈ identityLinks own fields ↔
      own.get? english = some english ∧ fields.get? english = some han ∧
        Text.containsHan han = true := by
  rw [identityLinks, List.mem_filterMap]
  constructor
  · rintro ⟨⟨key, label⟩, member, linked⟩
    dsimp only at linked
    split at linked
    · rename_i same
      subst same
      split at linked
      · rename_i found
        split at linked
        · rename_i isHan
          obtain ⟨rfl, rfl⟩ := NameLink.mk.inj (Option.some.inj linked)
          exact ⟨OrderedMap.get?_eq_some_iff.2 member, found, isHan⟩
        · simp at linked
      · simp at linked
    · simp at linked
  · rintro ⟨own, found, isHan⟩
    refine ⟨(english, english), OrderedMap.get?_eq_some_iff.1 own, ?_⟩
    simp [found, isHan]

/-- The name table has exactly the links that an entry witnesses. -/
theorem mem_links_ofArtifacts :
    ⟨english, han⟩ ∈ (ofArtifacts source translated).links ↔
      Witnessed source translated english han := by
  simp only [ofArtifacts, List.mem_append, List.mem_flatMap, OrderedMap.values, List.mem_map]
  constructor
  · rintro (⟨⟨node, schema⟩, member, linked⟩ | ⟨_, ⟨⟨node, schema⟩, member, rfl⟩, part, -, linked⟩)
    · dsimp only at linked
      split at linked
      · rename_i other found
        rcases List.mem_flatMap.1 linked with ⟨part, -, linked⟩
        rw [mem_identityLinks_iff, ← NodeMap.fieldsAt_of_mem member,
          ← NodeMap.fieldsAt_of_mem (OrderedMap.get?_eq_some_iff.1 found)] at linked
        rcases linked with ⟨own, there, isHan⟩
        exact .identity own there isHan
      · simp at linked
    · rw [mem_sectionLinks_iff, ← NodeMap.fieldsAt_of_mem member] at linked
      rcases linked with ⟨plain, isHan, there | there⟩
      · exact .label there plain isHan
      · exact .key there plain isHan
  · intro witnessed
    cases witnessed with
    | @identity node part own there isHan =>
      rcases NodeMap.exists_of_get?_fieldsAt own with ⟨schema, member, own⟩
      rcases NodeMap.exists_of_get?_fieldsAt there with ⟨other, otherMember, there⟩
      refine Or.inl ⟨(node, schema), member, ?_⟩
      dsimp only
      rw [OrderedMap.get?_eq_some_iff.2 otherMember]
      exact List.mem_flatMap.2 ⟨part, part.mem_all, mem_identityLinks_iff.2 ⟨own, there, isHan⟩⟩
    | @label node part there plain isHan =>
      rcases NodeMap.exists_of_get?_fieldsAt there with ⟨schema, member, there⟩
      exact Or.inr ⟨schema, ⟨_, member, rfl⟩, part, part.mem_all,
        mem_sectionLinks_iff.2 ⟨plain, isHan, Or.inl there⟩⟩
    | @key node part there plain isHan =>
      rcases NodeMap.exists_of_get?_fieldsAt there with ⟨schema, member, there⟩
      exact Or.inr ⟨schema, ⟨_, member, rfl⟩, part, part.mem_all,
        mem_sectionLinks_iff.2 ⟨plain, isHan, Or.inr there⟩⟩

end NameTable

end NodeLocale
