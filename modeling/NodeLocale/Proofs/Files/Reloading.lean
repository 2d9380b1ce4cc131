import NodeLocale.Artifact
import NodeLocale.Proofs.Files.Contents
import NodeLocale.Proofs.Json.ObjectReading

/-!
# Saved node maps are loaded again

A node map that was saved is loaded as it was, with the same keys in the same order and the same
labels whatever characters they hold, except that the files which define the nodes are forgotten.
-/

namespace NodeLocale

open Json Json.Reader

theorem reads_fieldsToJson (fields : FieldMap) (outer : Nat) :
    Reads (mapOf string) (prettyChars outer (NodeSchema.fieldsToJson fields)) fields := by
  refine reads_mapOf fun entry _ => ?_
  rw [prettyChars]
  exact reads_string entry.2

namespace NodeSchema

theorem missing?_record : record.missing? ["outputs", "widgets", "inputs", "title"] = none := by
  decide

/-- A schema is read back without the file that defines it. -/
theorem reads_record (schema : NodeSchema) (outer : Nat) :
    Reads record.read (prettyChars outer schema.toJson) schema.withoutSource := by
  have title : Reads string (prettyChars (outer + 1) (.string schema.title)) schema.title := by
    rw [prettyChars]
    exact reads_string schema.title
  have inputs := reads_fieldsToJson schema.inputs (outer + 1)
  have widgets := reads_fieldsToJson schema.widgets (outer + 1)
  have outputs := reads_fieldsToJson schema.outputs (outer + 1)
  refine Reader.reads_record ?_ missing?_record
  refine .cons (readsMember_record rfl (by simp) (reads_requiredField _ title) _) ?_
  refine .cons (readsMember_record rfl (by simp) (reads_field _ inputs) _) ?_
  refine .cons (readsMember_record rfl (by simp) (reads_field _ widgets) _) ?_
  refine .cons (readsMember_record rfl (by simp) (reads_field _ outputs) _) ?_
  exact .nil _

end NodeSchema

/-- The text of an artifact is read as a whole, up to the line break at its end. -/
theorem Artifact.readText_text {α : Type} {reader : Reader α} {json : Json} {value : α}
    (reads : Reads reader (prettyChars 0 json) value) :
    readText reader (Artifact.text json) = .ok value := by
  have written : Artifact.text json = String.ofList (prettyChars 0 json ++ ['\n']) := by
    rw [Artifact.text, Json.pretty, String.ofList_append]
  rw [written]
  apply readText_of_reads reads
  intro c lineBreak
  rw [List.mem_singleton.1 lineBreak]
  rfl

namespace NodeMap

theorem keys_withoutSources (nodes : NodeMap) : nodes.withoutSources.keys = nodes.keys :=
  OrderedMap.keys_mapValues _ nodes

/-- What is written of a node map does not tell the files that define its nodes. -/
theorem toJsonObject_withoutSources (nodes : NodeMap) :
    nodes.withoutSources.toJsonObject = nodes.toJsonObject := by
  apply OrderedMap.ext
  change List.map _ (List.map _ nodes.entries) = List.map _ nodes.entries
  rw [List.map_map]
  rfl

/-- A node map is read back without the files that define its nodes. -/
theorem reads_reader (nodes : NodeMap) (outer : Nat) :
    Reads reader (prettyChars outer nodes.toJson) nodes.withoutSources := by
  have written : nodes.toJson =
      .object (nodes.withoutSources.entries.map fun entry => (entry.1, entry.2.toJson)) := by
    rw [withoutSources, OrderedMap.mapValues, List.map_map]
    rfl
  rw [written]
  refine reads_mapOf fun entry member => ?_
  obtain ⟨source, _, rfl⟩ := List.mem_map.1 member
  exact NodeSchema.reads_record source.2.withoutSource (outer + 1)

theorem readText_reader (nodes : NodeMap) :
    readText reader (Artifact.text nodes.toJson) = .ok nodes.withoutSources :=
  Artifact.readText_text (reads_reader nodes 0)

end NodeMap

/-- A file with the text of a saved node map is loaded as that node map. -/
theorem Artifact.loadNodes_of_look {tree : FileTree} {path : Path} {nodes : NodeMap}
    (shown : tree.look path = .ok (.file (Artifact.text nodes.toJson).toUTF8)) :
    Artifact.loadNodes tree path = .ok nodes.withoutSources := by
  rw [loadNodes, loadText, FileTree.readText_of_look shown]
  simp [NodeMap.readText_reader, bind, Except.bind, pure, Except.pure]

/-- The node map that a file holds, if its content is the text of one. -/
def Artifact.nodesIn? (content : ByteArray) : Option NodeMap :=
  (String.fromUTF8? content).bind fun text => (readText NodeMap.reader text).toOption

theorem Artifact.loadNodes_eq_ok_iff {tree : FileTree} {path : Path} {nodes : NodeMap} :
    Artifact.loadNodes tree path = .ok nodes ↔
      ∃ content, tree.look path = .ok (.file content) ∧ nodesIn? content = some nodes := by
  rw [loadNodes, loadText, FileTree.readText, FileTree.readBytes]
  cases shown : tree.look path with
  | error error => simp [bind, Except.bind]
  | ok node =>
    cases node with
    | directory => simp [bind, Except.bind, throw, throwThe, MonadExceptOf.throw]
    | file content =>
      simp only [bind, Except.bind, pure, Except.pure, Except.ok.injEq, FileNode.file.injEq,
        exists_eq_left', nodesIn?]
      cases String.fromUTF8? content with
      | none => simp [throw, throwThe, MonadExceptOf.throw]
      | some text =>
        cases read : readText NodeMap.reader text <;>
          simp [read, throw, throwThe, MonadExceptOf.throw, Except.toOption]

end NodeLocale
