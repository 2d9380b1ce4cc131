import NodeLocale.Proofs.Basic
import NodeLocale.Proofs.Reconcile.Links

/-!
# The two directions of a name table

A table comes about by linking names one after another. A new link overwrites what either direction
says of its names, and adds its English name to those of the Han name unless it is already there.
Whatever was overwritten, the directions and the English names still agree with each other: that is
an invariant of linking, so it holds of every table and in particular of those that artifacts give.
-/

namespace NodeLocale

namespace NameTable

variable {table : NameTable} {source translated : NodeMap}

/-- The table with one more link. -/
def link (table : NameTable) (added : NameLink) : NameTable := ⟨table.links ++ [added]⟩

/-! ### What a link changes -/

theorem enToCn_link (table : NameTable) (added : NameLink) :
    (table.link added).enToCn = table.enToCn.insert added.english added.han := by
  simp [enToCn, link, OrderedMap.ofList_concat]

theorem cnToEn_link (table : NameTable) (added : NameLink) :
    (table.link added).cnToEn = table.cnToEn.insert added.han added.english := by
  simp [cnToEn, link, OrderedMap.ofList_concat]

theorem englishFor_link (table : NameTable) (added : NameLink) (han : String) :
    (table.link added).englishFor han =
      if added.han = han ∧ added.english ∉ table.englishFor han then
        table.englishFor han ++ [added.english]
      else table.englishFor han := by
  have names : (table.link added).englishFor han =
      table.englishFor han ++
        (if added.han = han ∧ added.english ∉ table.englishFor han then [added.english]
          else []) := by
    by_cases same : added.han = han
    · by_cases known : added.english ∈ (table.links.filter fun link => link.han = han).map
          NameLink.english
      · simp [englishFor, link, same, known, List.eraseDups_append, List.removeAll]
      · simp [englishFor, link, same, known, List.eraseDups_append, List.removeAll,
          List.eraseDups_cons]
    · simp [englishFor, link, same]
  rw [names]
  split <;> simp

theorem mem_englishFor_link {added : NameLink} {english han : String} :
    english ∈ (table.link added).englishFor han ↔
      english ∈ table.englishFor han ∨ added = ⟨english, han⟩ := by
  simp [mem_englishFor, link, eq_comm]

/-! ### What linking keeps -/

/-- Whether the two directions of a table and its English names agree with each other. -/
structure Consistent (table : NameTable) : Prop where
  nodup : ∀ han, (table.englishFor han).Nodup
  mem_keys_iff : ∀ han, han ∈ table.cnToEn.keys ↔ table.englishFor han ≠ []
  english_linked : ∀ han english, table.cnToEn.get? han = some english →
    english ∈ table.englishFor han
  english_known : ∀ han, ∀ english ∈ table.englishFor han, english ∈ table.enToCn.keys
  han_linked : ∀ english han, table.enToCn.get? english = some han →
    english ∈ table.englishFor han

theorem consistent_nil : Consistent ⟨[]⟩ := by
  constructor <;>
    simp [englishFor, enToCn, cnToEn, OrderedMap.ofList, OrderedMap.keys, OrderedMap.get?,
      Entries.collect, Entries.find?]

theorem Consistent.link (consistent : table.Consistent) (added : NameLink) :
    (table.link added).Consistent := by
  constructor
  case nodup =>
    intro han
    rw [englishFor_link]
    split
    · rename_i new
      have absent : ∀ english ∈ table.englishFor han, english ≠ added.english := by
        rintro english known rfl
        exact new.2 known
      simpa [List.nodup_append, consistent.nodup] using absent
    · exact consistent.nodup han
  case mem_keys_iff =>
    intro han
    rw [cnToEn_link, OrderedMap.mem_keys_insert, consistent.mem_keys_iff]
    by_cases same : added.han = han
    · have linked : added.english ∈ (table.link added).englishFor han := by
        simp [mem_englishFor_link, ← same]
      simp [same, List.ne_nil_of_mem linked]
    · simp [englishFor_link, same, Ne.symm same]
  case english_linked =>
    intro han english found
    rw [cnToEn_link, OrderedMap.get?_insert] at found
    rw [mem_englishFor_link]
    split at found
    · rename_i same
      right
      rw [← same, ← Option.some.inj found]
    · left
      exact consistent.english_linked han english found
  case english_known =>
    intro han english linked
    rw [enToCn_link, OrderedMap.mem_keys_insert]
    rcases mem_englishFor_link.1 linked with earlier | same
    · right
      exact consistent.english_known han english earlier
    · left
      rw [same]
  case han_linked =>
    intro english han found
    rw [enToCn_link, OrderedMap.get?_insert] at found
    rw [mem_englishFor_link]
    split at found
    · rename_i same
      right
      rw [← same, ← Option.some.inj found]
    · left
      exact consistent.han_linked english han found

/-- Every table is consistent, since it comes about link by link. -/
theorem consistent (table : NameTable) : table.Consistent := by
  rcases table with ⟨links⟩
  induction links using List.reverseRecOn with
  | nil => exact consistent_nil
  | append_singleton earlier added ih => exact ih.link added

/-- The table of two artifacts has exactly the links that an entry witnesses, and its two
directions agree with them. -/
theorem complete_and_consistent :
    (∀ english han, english ∈ (ofArtifacts source translated).englishFor han ↔
      Witnessed source translated english han) ∧
    (ofArtifacts source translated).Consistent := by
  constructor
  · intro english han
    rw [mem_englishFor, mem_links_ofArtifacts]
  · exact consistent _

end NameTable

end NodeLocale
