import NodeLocale.Detection.Survey
import NodeLocale.Proofs.Detection.DeclaredFields

/-!
# Merging

The nodes of the files of a directory are merged file by file. A key keeps the place of its first
definition and has the node of the last file that defines it. A file that was skipped defines
nothing. The labels of merged nodes are looked at once more, and as every file has been extracted
by itself there is nothing left to replace.
-/

namespace NodeLocale

open Script

namespace Detected

variable {tables : TypeTables} {source : Option Path} {program : Program} {key : String}
  {schema : NodeSchema}

theorem exists_class_of_get? (found : (nodes tables source program).get? key = some schema) :
    ∃ title definition, schema = NodeClass.schema tables title source definition := by
  rcases (get?_nodes_iff (opens_scope program.body)).1 found with ⟨definition, -, same⟩
  exact ⟨_, definition, same⟩

theorem sourceFile_of_get? (found : (nodes tables source program).get? key = some schema) :
    schema.sourceFile = source := by
  rcases exists_class_of_get? found with ⟨title, definition, rfl⟩
  rfl

theorem informative_of_get? (found : (nodes tables source program).get? key = some schema) :
    schema.Informative tables.primitive := by
  rcases exists_class_of_get? found with ⟨title, definition, rfl⟩
  exact NodeSchema.informative_applyIdentity tables.primitive _

end Detected

namespace Surveyed

variable {tables : TypeTables} {key : String} {schema : NodeSchema} {surveyed : Surveyed}

/-- Whether a file defines a node, which only a file with a program does. -/
inductive Defines (tables : TypeTables) (key : String) (schema : NodeSchema) : Surveyed → Prop
  | parsed {file : Path} {program : Program} :
      (Detected.nodes tables (some file) program).get? key = some schema →
      Defines tables key schema ⟨file, .ok program⟩

/-- Whether a list holds what a file defines, in order. -/
inductive Contributes (tables : TypeTables) : Surveyed → List (String × NodeSchema) → Prop
  | parsed (file : Path) (program : Program) :
      Contributes tables ⟨file, .ok program⟩ (Detected.nodes tables (some file) program).entries
  | skipped (file : Path) (error : String) : Contributes tables ⟨file, .error error⟩ []

theorem get?_nodes_iff :
    (surveyed.nodes tables).get? key = some schema ↔ Defines tables key schema surveyed := by
  constructor
  · intro found
    rcases surveyed with ⟨file, error | program⟩
    · rw [nodes, OrderedMap.get?_empty] at found
      exact absurd found (by simp)
    · exact .parsed found
  · intro defines
    cases defines with
    | parsed found => exact found

theorem contributes_iff (surveyed : Surveyed) (defined : List (String × NodeSchema)) :
    Contributes tables surveyed defined ↔ defined = (surveyed.nodes tables).entries := by
  constructor
  · intro contributes
    cases contributes with
    | parsed => rfl
    | skipped => rfl
  · rintro rfl
    rcases surveyed with ⟨file, error | program⟩
    · exact .skipped file error
    · exact .parsed file program

theorem Defines.sourceFile (defines : Defines tables key schema surveyed) :
    schema.sourceFile = some surveyed.file := by
  cases defines with
  | parsed found => exact Detected.sourceFile_of_get? found

theorem Defines.informative (defines : Defines tables key schema surveyed) :
    schema.Informative tables.primitive := by
  cases defines with
  | parsed found => exact Detected.informative_of_get? found

theorem entries_of_skipped (skipped : surveyed.isParsed = false) :
    (surveyed.nodes tables).entries = [] := by
  rcases surveyed with ⟨file, error | program⟩
  · rfl
  · exact absurd skipped (by simp [isParsed])

end Surveyed

namespace Survey

variable {tables : TypeTables} {files : List Surveyed} {key : String} {schema : NodeSchema}

/-- The nodes after a file. -/
def visit (tables : TypeTables) (nodes : NodeMap) (surveyed : Surveyed) : NodeMap :=
  nodes.insertMany (surveyed.nodes tables).entries

/-- The nodes of some files, before their labels are looked at once more. -/
def merged (tables : TypeTables) (files : List Surveyed) : NodeMap := files.foldl (visit tables) ∅

theorem merged_eq_ofList (tables : TypeTables) (files : List Surveyed) :
    merged tables files =
      .ofList (files.flatMap fun surveyed => (surveyed.nodes tables).entries) := by
  induction files using List.reverseRecOn with
  | nil => rfl
  | append_singleton front last ih =>
    rw [merged, List.foldl_concat, ← merged, ih, visit, List.flatMap_append,
      List.flatMap_singleton, OrderedMap.ofList_append]

theorem get?_merged_concat (files : List Surveyed) (last : Surveyed) (key : String) :
    (merged tables (files ++ [last])).get? key =
      ((last.nodes tables).get? key).or ((merged tables files).get? key) := by
  rw [merged_eq_ofList, merged_eq_ofList, List.flatMap_append, List.flatMap_singleton,
    OrderedMap.get?_ofList_append]

theorem get?_merged_iff : (merged tables files).get? key = some schema ↔
    ∃ file, IsLast (fun other => ∃ schema, other.Defines tables key schema) file files ∧
      file.Defines tables key schema := by
  induction files using List.reverseRecOn with
  | nil => simp [merged, IsLast.not_nil, OrderedMap.get?_empty]
  | append_singleton front last ih =>
    rw [get?_merged_concat]
    cases found : (last.nodes tables).get? key with
    | none =>
      have undefined : ¬∃ schema, last.Defines tables key schema := by
        rintro ⟨schema, defines⟩
        rw [Surveyed.get?_nodes_iff.2 defines] at found
        exact absurd found (by simp)
      rw [Option.none_or, ih]
      simp [IsLast.concat_iff, undefined]
    | some own =>
      have defined : ∃ schema, last.Defines tables key schema :=
        ⟨own, Surveyed.get?_nodes_iff.1 found⟩
      rw [Option.some_or, ← found, Surveyed.get?_nodes_iff]
      simp [IsLast.concat_iff, defined]

theorem firstsOf_keys_merged (tables : TypeTables) (files : List Surveyed) :
    FirstsOf (fun _ => True) (files.flatMap fun surveyed => (surveyed.nodes tables).entries)
      (merged tables files).keys := by
  rw [merged_eq_ofList]
  simpa using OrderedMap.firstsOf_keys_ofList (fun _ => true) Prod.snd
    (files.flatMap fun surveyed => (surveyed.nodes tables).entries)

theorem merged_filter_isParsed (tables : TypeTables) (files : List Surveyed) :
    merged tables (files.filter Surveyed.isParsed) = merged tables files := by
  rw [merged_eq_ofList, merged_eq_ofList]
  apply congrArg OrderedMap.ofList
  induction files with
  | nil => rfl
  | cons file rest ih =>
    cases parsed : file.isParsed with
    | true => rw [List.filter_cons_of_pos parsed, List.flatMap_cons, List.flatMap_cons, ih]
    | false =>
      rw [List.filter_cons_of_neg (by simp [parsed]), List.flatMap_cons,
        Surveyed.entries_of_skipped parsed, List.nil_append, ih]

theorem identity_merged (tables : TypeTables) (files : List Surveyed) :
    (merged tables files).identityChanges tables.primitive = 0 ∧
      (merged tables files).applyIdentity tables.primitive = merged tables files := by
  apply NodeMap.identity_of_informative
  intro key schema found
  rcases get?_merged_iff.1 found with ⟨file, -, defines⟩
  exact defines.informative

theorem nodes_ofFiles (tables : TypeTables) (files : List Surveyed) :
    (ofFiles tables files).nodes = merged tables files := by
  rw [ofFiles, ← merged_eq_ofList, (identity_merged tables files).2]

/-- Whether nodes are those of the parsed ones of some files: the keys stand in the order of their
first definitions, and under each is what the last file that defines it says. -/
structure Merges (tables : TypeTables) (files : List Surveyed) (nodes : NodeMap) : Prop where
  keys : ∃ defined, Concatenates (Surveyed.Contributes tables) files defined ∧
    FirstsOf (fun _ => True) defined nodes.keys
  last : ∀ key schema, nodes.get? key = some schema ↔
    ∃ file, IsLast (fun other => ∃ schema, other.Defines tables key schema) file files ∧
      file.Defines tables key schema ∧ schema.sourceFile = some file.file

/-- A survey merges the nodes of its files. It does not matter whether the skipped ones are there,
and looking at the labels once more changes none of them. -/
theorem merges_ofFiles (tables : TypeTables) (files : List Surveyed) :
    Merges tables files (ofFiles tables files).nodes ∧
      (ofFiles tables (files.filter Surveyed.isParsed)).nodes = (ofFiles tables files).nodes ∧
      (merged tables files).identityChanges tables.primitive = 0 ∧
      (ofFiles tables files).nodes = merged tables files := by
  refine ⟨⟨?_, ?_⟩, ?_, (identity_merged tables files).1, nodes_ofFiles tables files⟩
  · rw [nodes_ofFiles]
    exact ⟨_, (concatenates_iff Surveyed.contributes_iff).2 rfl, firstsOf_keys_merged tables files⟩
  · intro key schema
    rw [nodes_ofFiles, get?_merged_iff]
    apply exists_congr
    intro file
    apply and_congr_right
    intro isLast
    exact ⟨fun defines => ⟨defines, defines.sourceFile⟩, And.left⟩
  · rw [nodes_ofFiles, nodes_ofFiles, merged_filter_isParsed]

end Survey

end NodeLocale
