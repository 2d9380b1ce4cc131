import NodeLocale.Proofs.Detection.SameSources
import NodeLocale.Proofs.Extraction.Interleaving

/-!
# Steps of extractions

Plugins that are extracted side by side write below one directory, each under the name of its
directory. Nothing that is written is called like a source, so the work on a plugin goes on as if
nothing else had been written. Two artifacts share a place only if their plugins share a name.
-/

namespace NodeLocale

open FileTree

/-! ### Places -/

namespace OutputDirs

open NodeLocale.Path

variable {dirs : OutputDirs}

theorem plain_report : IsPlainName "node_detection_debug.json" := by constructor <;> decide

theorem plain_nodes (plain : IsPlainName dirs.plugin) :
    IsPlainName (dirs.plugin ++ "_nodes.json") := by
  apply isPlainName_of_mem (c := '_') (by simp) (by decide)
  simp [plain.single]

theorem target_nodesFile (plain : IsPlainName dirs.plugin) (start : Place) :
    dirs.nodesFile.target start =
      dirs.output.target start ++ [dirs.plugin, dirs.plugin ++ "_nodes.json"] :=
  target_child_child _ plain (plain_nodes plain) start

theorem target_reportFile (plain : IsPlainName dirs.plugin) (start : Place) :
    dirs.reportFile.target start =
      dirs.output.target start ++ [dirs.plugin, "debug", "node_detection_debug.json"] := by
  rw [reportFile, target_child _ plain_report, debug, target_child _ plain_debug, root,
    target_child _ plain]
  simp

end OutputDirs

namespace PluginExtraction

variable {settings : ExtractionSettings} {tree : FileTree} {plugin : Path}
  {extraction other : PluginExtraction} {path otherPath : Path} {text otherText : String}
  {start : Place}

theorem plain_plugin (settings : ExtractionSettings) (named : tree.WellNamed)
    (standing : tree.isDirectory plugin = true) :
    Path.IsPlainName (ofDirectory settings tree plugin).plugin := by
  have shown := isDirectory_iff.1 standing
  rcases look_eq_directory_iff.1 shown with ⟨place, reached, directory⟩
  have plain := named.isPlain directory
  have canonical : tree.canonical? plugin = some (pathOf place) := by
    simp [canonical?, shown, reached]
  change Path.IsPlainName (pluginName ((tree.canonical? plugin).getD plugin))
  rw [canonical, Option.getD_some]
  rcases List.eq_nil_or_concat place with rfl | ⟨front, name, rfl⟩
  · decide
  · have isLast : (front.concat name).getLast? = some name := by simp
    rw [pluginName, lastPart?_pathOf plain isLast]
    exact plain name (List.mem_of_getLast? isLast)

theorem unfailed_ofDirectory (settings : ExtractionSettings)
    (standing : tree.isDirectory plugin = true) :
    (ofDirectory settings tree plugin).survey.error = none := by
  rcases look_eq_directory_iff.1 (isDirectory_iff.1 standing) with ⟨place, reached, -⟩
  have listed : ∃ files, Survey.candidates settings.ignored tree plugin = .ok files := by
    simp [Survey.candidates, pathExists, standing, isDirectory_iff.1 standing, reached]
  rcases listed with ⟨files, listed⟩
  simp [ofDirectory, Survey.ofDirectory, listed, Survey.ofFiles]

theorem mem_artifacts : (path, text) ∈ extraction.artifacts ↔
    path = extraction.dirs.nodesFile ∧
        text = Artifact.text extraction.survey.nodes.withoutSources.toJson ∨
      path = extraction.dirs.reportFile ∧ text = Artifact.text extraction.survey.report.toJson := by
  simp [artifacts]

theorem dirs_eq (output : extraction.dirs.output = other.dirs.output)
    (named : extraction.plugin = other.plugin) : extraction.dirs = other.dirs := by
  rcases extraction with ⟨⟨directory, name⟩, survey⟩
  rcases other with ⟨⟨otherDirectory, otherName⟩, otherSurvey⟩
  exact OutputDirs.mk.injEq .. ▸ ⟨output, named⟩

/-- Artifacts have a place in common only if their plugins have the name in common. -/
theorem same_of_target_eq (plain : Path.IsPlainName extraction.plugin)
    (otherPlain : Path.IsPlainName other.plugin)
    (output : extraction.dirs.output = other.dirs.output)
    (member : (path, text) ∈ extraction.artifacts)
    (otherMember : (otherPath, otherText) ∈ other.artifacts)
    (same : path.target start = otherPath.target start) :
    extraction.plugin = other.plugin ∧ path = otherPath := by
  rcases mem_artifacts.1 member with ⟨rfl, rfl⟩ | ⟨rfl, rfl⟩ <;>
    rcases mem_artifacts.1 otherMember with ⟨rfl, rfl⟩ | ⟨rfl, rfl⟩ <;>
    simp only [OutputDirs.target_nodesFile plain, OutputDirs.target_nodesFile otherPlain,
      OutputDirs.target_reportFile plain, OutputDirs.target_reportFile otherPlain, output,
      List.append_cancel_left_eq, List.cons.injEq, reduceCtorEq, and_false] at same
  · exact ⟨same.1, congrArg OutputDirs.nodesFile (dirs_eq output same.1)⟩
  · exact ⟨same.1, congrArg OutputDirs.reportFile (dirs_eq output same.1)⟩

theorem text_unique (plain : Path.IsPlainName extraction.plugin)
    (member : (path, text) ∈ extraction.artifacts)
    (otherMember : (path, otherText) ∈ extraction.artifacts) : text = otherText := by
  have different : extraction.dirs.nodesFile ≠ extraction.dirs.reportFile := by
    intro same
    have targets := congrArg (fun path => Path.target path []) same
    simp [OutputDirs.target_nodesFile plain, OutputDirs.target_reportFile plain] at targets
  rcases mem_artifacts.1 member with ⟨rfl, rfl⟩ | ⟨rfl, rfl⟩ <;>
    rcases mem_artifacts.1 otherMember with ⟨same, rfl⟩ | ⟨same, rfl⟩
  · rfl
  · exact absurd same different
  · exact absurd same.symm different
  · rfl

/-- No artifact is called like a source. -/
theorem noSource_of_mem_artifacts (plain : Path.IsPlainName extraction.plugin)
    (member : (path, text) ∈ extraction.artifacts) {name : String}
    (isLast : (path.target start).getLast? = some name) : name.toList.getLast? ≠ some 'y' := by
  rcases mem_artifacts.1 member with ⟨rfl, rfl⟩ | ⟨rfl, rfl⟩
  · rw [OutputDirs.target_nodesFile plain] at isLast
    have same : extraction.dirs.plugin ++ "_nodes.json" = name := by simpa using isLast
    have ending : "_nodes.json".toList.getLast? = some 'n' := by decide
    rw [← same, String.toList_append, List.getLast?_append, ending, Option.some_or]
    decide
  · rw [OutputDirs.target_reportFile plain] at isLast
    have same : "node_detection_debug.json" = name := by simpa using isLast
    rw [← same]
    decide

end PluginExtraction

/-! ### Steps -/

namespace SavingTask

variable {tree after : FileTree} {task : SavingTask} {more : List SavingTask}

/-- What a task does: it makes a directory at most, or it is done with a text that it writes. -/
inductive Does (tree : FileTree) : SavingTask → FileTree → List SavingTask → Prop
  | makes {task : SavingTask} {after : FileTree} {more : List SavingTask}
      (same : SameSources tree after) (grown : Grown tree after)
      (silent : ∀ path text, .write path text ∉ task :: more) : Does tree task after more
  | writes {path : Path} {text : String} {after : FileTree}
      (wrote : tree.writeText path text = .ok after) : Does tree (.write path text) after []

theorem does_of_perform (named : tree.WellNamed)
    (performed : task.perform tree = some (after, more)) : Does tree task after more := by
  have nothing : ∀ {task : SavingTask} {more : List SavingTask},
      (∀ path text, .write path text ∉ task :: more) → Does tree task tree more := by
    intro task more silent
    exact .makes (.refl named) (.refl tree) silent
  cases task with
  | createDirectories path =>
    rw [perform] at performed
    split at performed
    · rw [Option.some.injEq, Prod.mk.injEq] at performed
      rcases performed with ⟨rfl, rfl⟩
      exact nothing (by simp)
    split at performed
    · rename_i created
      rw [Option.some.injEq, Prod.mk.injEq] at performed
      rcases performed with ⟨rfl, rfl⟩
      exact .makes (sameSources_of_createDirectory named created)
        (grown_of_createDirectory created) (by simp)
    · rw [Option.map_eq_some_iff] at performed
      rcases performed with ⟨parent, -, same⟩
      rw [Prod.mk.injEq] at same
      rcases same with ⟨rfl, rfl⟩
      exact nothing (by simp)
    · split at performed
      · rw [Option.some.injEq, Prod.mk.injEq] at performed
        rcases performed with ⟨rfl, rfl⟩
        exact nothing (by simp)
      · simp at performed
  | ensureDirectory path =>
    have same := sameSources_of_ensureDirectory named path
    have grown := grown_ensureDirectory tree path
    rw [perform] at performed
    split at performed
    · rename_i ensured
      rw [Option.some.injEq, Prod.mk.injEq] at performed
      rcases performed with ⟨rfl, rfl⟩
      rw [ensured] at same grown
      exact .makes same grown (by simp)
    · simp at performed
  | write path text =>
    rw [perform, Option.map_eq_some_iff] at performed
    rcases performed with ⟨written, wrote, same⟩
    rw [Prod.mk.injEq] at same
    rcases same with ⟨rfl, rfl⟩
    cases outcome : tree.writeText path text with
    | error error => simp [outcome, Except.toOption] at wrote
    | ok result =>
      rw [outcome, Except.toOption, Option.some.injEq] at wrote
      exact .writes (wrote ▸ outcome)

end SavingTask

namespace ExtractionStage

variable {settings : ExtractionSettings} {plugin : Path} {first tree after : FileTree}
  {stage next : ExtractionStage}

open PluginExtraction (ofDirectory)

/-- Whether the work on a plugin is on its way to what the plugin held at first. -/
inductive OnTrack (settings : ExtractionSettings) (first : FileTree) (plugin : Path) :
    ExtractionStage → Prop
  | waiting : OnTrack settings first plugin .waiting
  | reading {read unread : List Path}
      (listed : Survey.candidates settings.ignored first plugin = .ok (read ++ unread)) :
      OnTrack settings first plugin (.reading (read.map (Survey.readFile first)) unread)
  | saving {tasks : List SavingTask}
      (own : ∀ path text, .write path text ∈ tasks →
        (path, text) ∈ (ofDirectory settings first plugin).artifacts) :
      OnTrack settings first plugin (.saving (ofDirectory settings first plugin) tasks)

/-- A step of the work on a plugin that is on its way. -/
inductive Advances (settings : ExtractionSettings) (first : FileTree) (plugin : Path)
    (tree : FileTree) : ExtractionStage → FileTree → ExtractionStage → Prop
  | begins {files : List Path}
      (listed : Survey.candidates settings.ignored first plugin = .ok files) :
      Advances settings first plugin tree .waiting tree (.reading [] files)
  | reads {read : List Surveyed} {file : Path} {unread : List Path} :
      Advances settings first plugin tree (.reading read (file :: unread)) tree
        (.reading (read ++ [Survey.readFile first file]) unread)
  | surveys {read : List Surveyed} :
      Advances settings first plugin tree (.reading read []) tree
        (.saving (ofDirectory settings first plugin) (ofDirectory settings first plugin).tasks)
  | saves {extraction : PluginExtraction} {task : SavingTask} {rest more : List SavingTask}
      {after : FileTree} (does : SavingTask.Does tree task after more) :
      Advances settings first plugin tree (.saving extraction (task :: rest)) after
        (.saving extraction (more ++ rest))

theorem OnTrack.advances (onTrack : OnTrack settings first plugin stage)
    (same : SameSources first tree) (standing : first.isDirectory plugin = true)
    (advanced : stage.advance settings plugin tree = some (after, next)) :
    Advances settings first plugin tree stage after next := by
  cases onTrack with
  | waiting =>
    have unfailed := PluginExtraction.unfailed_ofDirectory settings standing
    rw [advance, same.candidates_eq standing] at advanced
    cases listed : Survey.candidates settings.ignored first plugin with
    | error error => simp [ofDirectory, Survey.ofDirectory, listed] at unfailed
    | ok files =>
      rw [listed, Option.some.injEq, Prod.mk.injEq] at advanced
      rcases advanced with ⟨rfl, rfl⟩
      exact .begins listed
  | @reading read unread listed =>
    cases unread with
    | nil =>
      rw [advance, Option.some.injEq, Prod.mk.injEq] at advanced
      rcases advanced with ⟨rfl, rfl⟩
      rw [List.append_nil] at listed
      have surveyed : (⟨.ofPlugin settings.output ((tree.canonical? plugin).getD plugin),
          .ofFiles settings.tables (read.map (Survey.readFile first))⟩ : PluginExtraction) =
            ofDirectory settings first plugin := by
        rw [same.canonical?_eq standing, ofDirectory, Survey.ofDirectory, listed]
      simp only [surveyed]
      exact .surveys
    | cons file others =>
      rw [advance, Option.some.injEq, Prod.mk.injEq, same.readFile_eq listed (by simp)] at advanced
      rcases advanced with ⟨rfl, rfl⟩
      exact .reads
  | @saving tasks own =>
    cases tasks with
    | nil => simp [advance] at advanced
    | cons task rest =>
      rw [advance, Option.map_eq_some_iff] at advanced
      rcases advanced with ⟨⟨reached, more⟩, performed, result⟩
      rw [Prod.mk.injEq] at result
      rcases result with ⟨rfl, rfl⟩
      exact .saves (SavingTask.does_of_perform same.afterNamed performed)

theorem write_mem_tasks {extraction : PluginExtraction} {path : Path} {text : String}
    (unfailed : extraction.survey.error = none) :
    .write path text ∈ extraction.tasks ↔ (path, text) ∈ extraction.artifacts := by
  simp only [PluginExtraction.tasks, unfailed, Option.isSome_none, Bool.false_eq_true, if_false,
    List.mem_append, List.mem_map, reduceCtorEq, and_false, exists_false, false_or,
    List.mem_flatMap, PluginExtraction.savingTasks, List.mem_singleton, SavingTask.write.injEq]
  constructor
  · rintro ⟨artifact, member, rfl, rfl⟩
    exact member
  · intro member
    exact ⟨(path, text), member, rfl, rfl⟩

theorem OnTrack.step (onTrack : OnTrack settings first plugin stage)
    (standing : first.isDirectory plugin = true)
    (advances : Advances settings first plugin tree stage after next) :
    OnTrack settings first plugin next := by
  cases advances with
  | @begins files listed =>
    have further : Survey.candidates settings.ignored first plugin = .ok ([] ++ files) := listed
    exact .reading further
  | @reads _ file unread =>
    rcases onTrack with _ | @⟨read, _, listed⟩
    have further : OnTrack settings first plugin
        (.reading ((read ++ [file]).map (Survey.readFile first)) unread) := by
      apply OnTrack.reading
      rw [listed, List.append_assoc, List.singleton_append]
    rwa [List.map_append] at further
  | surveys =>
    apply OnTrack.saving
    intro path text
    exact (write_mem_tasks (PluginExtraction.unfailed_ofDirectory settings standing)).1
  | @saves _ task rest more _ does =>
    rcases onTrack with _ | _ | ⟨own⟩
    apply OnTrack.saving
    intro path text member
    rcases List.mem_append.1 member with new | old
    · cases does with
      | makes same grown silent => exact absurd (List.mem_cons_of_mem _ new) (silent path text)
      | writes wrote => simp at new
    · exact own path text (List.mem_cons_of_mem _ old)

/-- Whether a step leaves a tree with directories at most, or with an artifact of a plugin. -/
inductive Leaves (extraction : PluginExtraction) (tree after : FileTree) : Prop
  | directories (same : SameSources tree after) (grown : Grown tree after)
  | artifact {path : Path} {text : String} (member : (path, text) ∈ extraction.artifacts)
      (wrote : tree.writeText path text = .ok after)

theorem OnTrack.leaves (onTrack : OnTrack settings first plugin stage)
    (named : tree.WellNamed) (advances : Advances settings first plugin tree stage after next) :
    Leaves (ofDirectory settings first plugin) tree after := by
  cases advances with
  | begins listed => exact .directories (.refl named) (.refl tree)
  | reads => exact .directories (.refl named) (.refl tree)
  | surveys => exact .directories (.refl named) (.refl tree)
  | saves does =>
    rcases onTrack with _ | _ | ⟨own⟩
    cases does with
    | makes same grown silent => exact .directories same grown
    | writes wrote => exact .artifact (own _ _ (by simp)) wrote

theorem Leaves.sameSources {extraction : PluginExtraction}
    (leaves : Leaves extraction tree after) (plain : Path.IsPlainName extraction.plugin)
    (named : tree.WellNamed) : SameSources tree after := by
  cases leaves with
  | directories same grown => exact same
  | artifact member wrote =>
    apply sameSources_of_writeText named wrote
    intro name isLast
    exact PluginExtraction.noSource_of_mem_artifacts plain member isLast

theorem OnTrack.result_eq {extraction : PluginExtraction}
    (onTrack : OnTrack settings first plugin stage) (result : stage.result? = some extraction) :
    extraction = ofDirectory settings first plugin := by
  cases onTrack with
  | waiting => simp [result?] at result
  | reading listed => simp [result?] at result
  | @saving tasks own =>
    cases tasks with
    | nil =>
      rw [result?, Option.some.injEq] at result
      exact result.symm
    | cons task rest => simp [result?] at result

end ExtractionStage

end NodeLocale
