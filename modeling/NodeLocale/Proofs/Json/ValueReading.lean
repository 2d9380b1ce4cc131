import NodeLocale.Proofs.Json.ObjectReading
import NodeLocale.Schema

/-!
# Node maps are read back as values

A reader of values of any shape takes strings and indented objects back as they were written, one
level of nesting at a time: an object of which no key is repeated is read as the list of its members
in their order. A node map is nested four levels deep, far below the limit at which reading stops.
-/

namespace NodeLocale

namespace Json.Reader

variable {depth outer level : Nat} {entries : List (String × Json)}

theorem reads_valueWithin_string (depth : Nat) (value : String) :
    Reads (valueWithin (depth + 1)) (stringChars value) (.string value) := by
  intro gap rest blank _
  rw [valueWithin, stringChars, List.append_assoc, List.append_assoc, List.cons_append,
    skipGap_append blank (by decide)]
  simp [text_escaped, bind, Except.bind, pure, Except.pure]

/-- The members of an object are taken back by writing them one after another. -/
theorem readsMembers_entryOf {item : Reader Json}
    (reads : ∀ entry ∈ entries, Reads item (prettyChars level entry.2) entry.2)
    (written : List (String × Json)) :
    ReadsMembers (entryOf item) level entries written
      (entries.foldl (fun done entry => Entries.upsert entry.1 entry.2 done) written) := by
  induction entries generalizing written with
  | nil => exact .nil written
  | cons entry entries ih =>
    have readTail := ih (fun other member => reads other (List.mem_cons_of_mem entry member))
      (Entries.upsert entry.1 entry.2 written)
    refine .cons ?_ readTail
    intro rest ends
    simp [entryOf, colon_colon, (reads entry List.mem_cons_self).afterColon ends, bind,
      Except.bind, pure, Except.pure]

/-- An object without repeated keys is taken back one level above its members. -/
theorem reads_valueWithin_object (distinct : (entries.map Prod.fst).Nodup)
    (reads : ∀ entry ∈ entries,
      Reads (valueWithin (depth + 1)) (prettyChars (outer + 1) entry.2) entry.2) :
    Reads (valueWithin (depth + 2)) (prettyChars outer (.object entries)) (.object entries) := by
  intro gap rest blank _
  rcases members_pretty (readsMembers_entryOf reads []) rest with ⟨body, written, read⟩
  rw [Entries.foldl_upsert_eq_append entries [] distinct, List.nil_append] at read
  rw [List.append_assoc, written, valueWithin, skipGap_append blank (by decide)]
  simp [read, closeObject_brace, bind, Except.bind, pure, Except.pure]

end Json.Reader

open Json Json.Reader

theorem reads_valueWithin_fieldsToJson (depth : Nat) (fields : FieldMap) (outer : Nat) :
    Reads (valueWithin (depth + 2)) (prettyChars outer (NodeSchema.fieldsToJson fields))
      (NodeSchema.fieldsToJson fields) := by
  apply reads_valueWithin_object
  · rw [List.map_map]
    exact fields.distinct
  · intro entry member
    rcases List.mem_map.1 member with ⟨field, -, rfl⟩
    rw [prettyChars]
    exact reads_valueWithin_string depth field.2

theorem NodeSchema.reads_valueWithin (depth : Nat) (schema : NodeSchema) (outer : Nat) :
    Reads (Json.Reader.valueWithin (depth + 3)) (prettyChars outer schema.toJson)
      schema.toJson := by
  have title : Reads (Json.Reader.valueWithin (depth + 2))
      (prettyChars (outer + 1) (.string schema.title)) (.string schema.title) := by
    rw [prettyChars]
    exact reads_valueWithin_string (depth + 1) schema.title
  apply reads_valueWithin_object
  · simp
  · simp only [List.forall_mem_cons]
    refine ⟨title, ?_, ?_, ?_, List.forall_mem_nil _⟩
    · exact reads_valueWithin_fieldsToJson depth schema.inputs (outer + 1)
    · exact reads_valueWithin_fieldsToJson depth schema.widgets (outer + 1)
    · exact reads_valueWithin_fieldsToJson depth schema.outputs (outer + 1)

/-- A node map is read back as the value that it is written as. -/
theorem NodeMap.reads_value (nodes : NodeMap) (outer : Nat) :
    Reads value (prettyChars outer nodes.toJson) nodes.toJson := by
  have limit : nestingLimit = 124 + 4 := rfl
  rw [value, limit]
  apply reads_valueWithin_object
  · exact nodes.toJsonObject.distinct
  · intro entry member
    rcases List.mem_map.1 member with ⟨node, -, rfl⟩
    exact node.2.reads_valueWithin 124 (outer + 1)

end NodeLocale
