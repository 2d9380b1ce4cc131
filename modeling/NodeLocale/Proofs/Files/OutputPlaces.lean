import NodeLocale.OutputDirs
import NodeLocale.Proofs.Basic
import NodeLocale.Proofs.Files.Saving

/-!
# Places of the artifacts of a plugin

All artifacts of a run lie two levels below the directory of the plugin, in a directory and under
a name that are both plain. So two of them share a place only if directory and name agree, which
leaves a single case: the translated nodes of a plugin that is called like the file of a batch.
-/

namespace NodeLocale

namespace Path

/-- A text without separators is a plain name as soon as it has a letter other than a dot. -/
theorem isPlainName_of_mem {name : String} {c : Char} (member : c ∈ name.toList) (noDot : c ≠ '.')
    (single : '/' ∉ name.toList) : IsPlainName name := by
  refine ⟨?_, single, ?_, ?_⟩
  · rintro rfl
    simp at member
  · rintro rfl
    simp [noDot] at member
  · rintro rfl
    simp [noDot] at member

theorem target_child_child (base : Path) {directory name : String}
    (plainDirectory : IsPlainName directory) (plain : IsPlainName name) (start : Place) :
    ((base.child directory).child name).target start =
      base.target start ++ [directory, name] := by
  rw [target_child _ plain, target_child _ plainDirectory, List.append_assoc,
    List.singleton_append]

theorem single_of_mem_segments {path : Path} {segment : String}
    (member : segment ∈ path.segments) : segment ≠ "" ∧ '/' ∉ segment.toList := by
  obtain ⟨run, runMember, rfl⟩ := List.mem_map.1 member
  have kept := List.mem_filter.1 runMember
  refine ⟨by simpa using kept.2, ?_⟩
  rw [String.toList_ofList]
  intro separator
  have separates := Text.separates_eq_false_of_mem kept.1 separator
  simp at separates

/-- The names among the parts of a path are plain. -/
theorem isPlainName_of_mem_parts {path : Path} {name : String}
    (member : Part.name name ∈ path.parts) : IsPlainName name := by
  have inner : Part.name name ∈ path.segments.filterMap Part.ofSegment? := by
    rw [parts] at member
    split at member
    · simpa using member
    split at member
    · simpa using member
    · exact member
  obtain ⟨segment, segmentMember, part⟩ := List.mem_filterMap.1 inner
  rw [Part.ofSegment?] at part
  split at part
  · simp at part
  split at part
  · simp at part
  · rename_i notHere notUp
    obtain rfl : segment = name := by simpa using part
    have single := single_of_mem_segments segmentMember
    exact ⟨single.1, single.2, notHere, notUp⟩

end Path

/-- The name of a plugin is a plain name, unless it is two dots. -/
theorem isPlainName_pluginName {path : Path} (named : pluginName path ≠ "..") :
    Path.IsPlainName (pluginName path) := by
  rw [pluginName] at named ⊢
  split at named
  · exact absurd rfl named
  · rename_i text last
    exact Path.isPlainName_of_mem_parts (List.mem_of_getLast? last)
  · constructor <;> decide

/-- The name of a plugin is a single segment of a path. -/
theorem not_mem_pluginName (path : Path) : '/' ∉ (pluginName path).toList := by
  by_cases up : pluginName path = ".."
  · rw [up]
    decide
  · exact (isPlainName_pluginName up).single

namespace OutputDirs

open NodeLocale.Path

variable (dirs : OutputDirs) (start : Place)

theorem plain_temp : IsPlainName "temp" := by constructor <;> decide

theorem plain_localized : IsPlainName "translations" := by constructor <;> decide

theorem plain_logs : IsPlainName "logs" := by constructor <;> decide

theorem plain_debug : IsPlainName "debug" := by constructor <;> decide

theorem plain_pending : IsPlainName "nodes_to_translate.json" := by constructor <;> decide

theorem plain_finalLog : IsPlainName "final_corrections.log" := by constructor <;> decide

/-- The digits of a number hold no separator. -/
theorem not_mem_toDigits (number : Nat) : '/' ∉ Nat.toDigits 10 number := by
  intro present
  have digit := Nat.isDigit_of_mem_toDigits (by omega) (by omega) present
  simp at digit

theorem plain_batch (batch : Nat) :
    IsPlainName ("batch_" ++ toString batch ++ "_translated.json") := by
  refine isPlainName_of_mem (c := 'b') (by simp) (by decide) ?_
  simp [not_mem_toDigits]

theorem plain_batchLog (batch : Nat) :
    IsPlainName ("batch_" ++ toString batch ++ "_corrections.log") := by
  refine isPlainName_of_mem (c := 'b') (by simp) (by decide) ?_
  simp [not_mem_toDigits]

theorem plain_final (plugin : Path) : IsPlainName (pluginName plugin ++ ".json") := by
  refine isPlainName_of_mem (c := 'j') (by simp) (by decide) ?_
  simp [not_mem_pluginName]

/-! ### Artifacts -/

theorem isArtifact_pendingFile : dirs.pendingFile.IsArtifact :=
  ⟨_, _, _, plain_temp, plain_pending, rfl⟩

theorem isArtifact_batchFile (batch : Nat) : (dirs.batchFile batch).IsArtifact :=
  ⟨_, _, _, plain_localized, plain_batch batch, rfl⟩

theorem isArtifact_batchLogFile (batch : Nat) : (dirs.batchLogFile batch).IsArtifact :=
  ⟨_, _, _, plain_logs, plain_batchLog batch, rfl⟩

theorem isArtifact_finalLogFile : dirs.finalLogFile.IsArtifact :=
  ⟨_, _, _, plain_logs, plain_finalLog, rfl⟩

theorem isArtifact_finalFile (output plugin : Path) :
    (OutputDirs.ofPlugin output plugin).finalFile.IsArtifact :=
  ⟨_, _, _, plain_localized, plain_final plugin, rfl⟩

/-! ### Places -/

@[simp]
theorem target_pendingFile : dirs.pendingFile.target start =
    dirs.root.target start ++ ["temp", "nodes_to_translate.json"] :=
  target_child_child _ plain_temp plain_pending start

@[simp]
theorem target_batchFile (batch : Nat) : (dirs.batchFile batch).target start =
    dirs.root.target start ++
      ["translations", "batch_" ++ toString batch ++ "_translated.json"] :=
  target_child_child _ plain_localized (plain_batch batch) start

@[simp]
theorem target_batchLogFile (batch : Nat) : (dirs.batchLogFile batch).target start =
    dirs.root.target start ++ ["logs", "batch_" ++ toString batch ++ "_corrections.log"] :=
  target_child_child _ plain_logs (plain_batchLog batch) start

@[simp]
theorem target_finalLogFile : dirs.finalLogFile.target start =
    dirs.root.target start ++ ["logs", "final_corrections.log"] :=
  target_child_child _ plain_logs plain_finalLog start

theorem target_finalFile (output plugin : Path) :
    (OutputDirs.ofPlugin output plugin).finalFile.target start =
      (OutputDirs.ofPlugin output plugin).root.target start ++
        ["translations", pluginName plugin ++ ".json"] :=
  target_child_child _ plain_localized (plain_final plugin) start

/-- Different batches have different files. -/
theorem batchName_injective {left right : Nat}
    (same : "batch_" ++ toString left ++ "_translated.json" =
      "batch_" ++ toString right ++ "_translated.json") : left = right :=
  Text.numbered_injective same

/-- The translated nodes of a plugin are in the file of a batch if the plugin is called so. -/
theorem finalName_eq_batchName_iff {plugin : String} {batch : Nat} :
    plugin ++ ".json" = "batch_" ++ toString batch ++ "_translated.json" ↔
      plugin = "batch_" ++ toString batch ++ "_translated" := by
  have split : "batch_" ++ toString batch ++ "_translated.json" =
      "batch_" ++ toString batch ++ "_translated" ++ ".json" := by
    apply String.ext
    simp
  rw [split]
  constructor
  · intro same
    apply String.ext
    have letters := congrArg String.toList same
    rw [String.toList_append, String.toList_append] at letters
    exact List.append_cancel_right letters
  · rintro rfl
    rfl

/-! ### New directories -/

theorem grown_createAll (tree : FileTree) (paths : List Path) :
    FileTree.Grown tree (createAll tree paths).1 := by
  induction paths generalizing tree with
  | nil => exact FileTree.Grown.refl tree
  | cons path rest ih =>
    have grown := FileTree.grown_createDirectories tree path
    rw [createAll]
    split
    · rename_i reached created
      rw [created] at grown
      exact grown.trans (ih reached)
    · rename_i reached error failed
      rwa [failed] at grown

/-- New directories of a plugin hold no batches. -/
theorem hasNoFile_create {tree : FileTree}
    (absent : tree.node? (dirs.root.target tree.workingDirectory) = none) (batch : Nat) :
    (create tree dirs).1.HasNoFile (dirs.batchFile batch) := by
  have grown : FileTree.Grown tree (create tree dirs).1 := grown_createAll tree _
  have before : tree.node? ((dirs.batchFile batch).target tree.workingDirectory) = none := by
    rw [target_batchFile]
    refine FileTree.node?_below (by simp [absent]) (List.prefix_append _ _) ?_
    simp
  intro content appeared
  rw [grown.workingDirectory] at appeared
  rcases grown.added _ before with free | directory
  · rw [free] at appeared
    simp at appeared
  · rw [directory] at appeared
    simp at appeared

end OutputDirs

end NodeLocale
