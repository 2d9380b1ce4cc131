import NodeLocale.Proofs.Files.Reloading
import NodeLocale.Proofs.Files.Saving
import NodeLocale.Proofs.Json.ValueReading

/-!
# Saving and loading artifacts

What was saved of a node map is loaded as a node map and as an object, whatever path it was saved
under and whatever characters its keys, titles and labels hold: the text is read back member by
member, in order at every level. Both of what is loaded are written as the node map was, so saving
either of them leaves the same bytes.
-/

namespace NodeLocale

open Json Json.Reader

/-- The text of a saved node map is that of a value. -/
theorem NodeMap.readText_value (nodes : NodeMap) :
    readText value (Artifact.text nodes.toJson) = .ok nodes.toJson :=
  Artifact.readText_text (nodes.reads_value 0)

namespace Artifact

variable {tree before after : FileTree} {path : Path} {nodes : NodeMap} {json : Json}

theorem look_of_saveJson (saved : saveJson before path json = (after, .ok ())) :
    after.look path = .ok (.file (text json).toUTF8) :=
  (savedAs_of_saveText saved).shown

theorem loadObject_of_look
    (shown : tree.look path = .ok (.file (text nodes.toJson).toUTF8)) :
    loadObject tree path = .ok nodes.toJsonObject := by
  have whole : OrderedMap.ofList nodes.toJsonObject.entries = nodes.toJsonObject :=
    OrderedMap.ofList_entries nodes.toJsonObject
  have read : readText value (text nodes.toJson) = .ok (.object nodes.toJsonObject.entries) :=
    nodes.readText_value
  rw [loadObject, loadText, FileTree.readText_of_look shown]
  simp [read, whole, bind, Except.bind, pure, Except.pure]

/-- What is written for an artifact that was loaded, as a node map or as an object. -/
inductive Loads (tree : FileTree) (path : Path) : Json → Prop
  | nodes {loaded : NodeMap} (found : loadNodes tree path = .ok loaded) :
      Loads tree path loaded.toJson
  | object {loaded : JsonObject} (found : loadObject tree path = .ok loaded) :
      Loads tree path (.ofMap loaded)

/-- Whatever a saved node map is loaded as, it is written as before. -/
theorem Loads.eq_toJson (shown : tree.look path = .ok (.file (text nodes.toJson).toUTF8))
    (loads : Loads tree path json) : json = nodes.toJson := by
  cases loads with
  | @nodes loaded found =>
    rw [loadNodes_of_look shown, Except.ok.injEq] at found
    rw [← found, NodeMap.toJson, NodeMap.toJsonObject_withoutSources, ← NodeMap.toJson]
  | @object loaded found =>
    rw [loadObject_of_look shown, Except.ok.injEq] at found
    rw [← found, NodeMap.toJson]

/-- A node map that was saved is loaded without the files that define its nodes, and its object is
loaded as it was. Saving what was loaded writes the same bytes, wherever it is saved. -/
theorem loads_of_saveJson (saved : saveJson before path nodes.toJson = (after, .ok ())) :
    loadNodes after path = .ok nodes.withoutSources ∧
      loadObject after path = .ok nodes.toJsonObject ∧
      ∃ bytes, after.readBytes path = .ok bytes ∧
        ∀ loaded start other last, Loads after path loaded →
          saveJson start other loaded = (last, .ok ()) → last.readBytes other = .ok bytes := by
  have shown := look_of_saveJson saved
  have read := FileTree.readBytes_of_look shown
  refine ⟨loadNodes_of_look shown, loadObject_of_look shown, _, read, ?_⟩
  intro loaded start other last loads savedAgain
  rw [loads.eq_toJson shown] at savedAgain
  exact FileTree.readBytes_of_look (look_of_saveJson savedAgain)

/-- A node map with the characters that are written as escapes, and with empty keys and labels. -/
def knottyNodes : NodeMap :=
  .ofList
    [("", {
      title := "\"\x7b\\\n\x7d\""
      inputs := .ofList [("\r\n", ""), ("", "\x00\t😀")]
      outputs := .ofList [("\\u0041", "\x1f图像\x7f")]
      sourceFile := some ⟨"/plugins/knotty.py"⟩ }),
    ("\x08/\x0c", { title := "" })]

set_option maxRecDepth 100000 in
theorem loads_of_knottyNodes : ∃ after,
    saveJson .empty ⟨"out/../deep//nodes.json"⟩ knottyNodes.toJson = (after, .ok ()) ∧
      loadNodes after ⟨"out/../deep//nodes.json"⟩ = .ok knottyNodes.withoutSources ∧
      loadObject after ⟨"out/../deep//nodes.json"⟩ = .ok knottyNodes.toJsonObject := by
  have written : (saveJson .empty ⟨"out/../deep//nodes.json"⟩ knottyNodes.toJson).2 = .ok () := by
    decide +kernel
  rcases saved : saveJson .empty ⟨"out/../deep//nodes.json"⟩ knottyNodes.toJson
    with ⟨after, outcome⟩
  rw [saved] at written
  obtain rfl : outcome = .ok () := written
  have loads := loads_of_saveJson saved
  exact ⟨after, rfl, loads.1, loads.2.1⟩

end Artifact

end NodeLocale
