import Mathlib.Logic.Relation
import NodeLocale.CommandLine.Execution

/-!
# Extractions side by side

Plugins may be extracted at the same time. Each of them is worked on by itself: its files are
listed, read one after another and surveyed, and then directories are created and artifacts are
written, one operation on files at a time. The work is stepped through here in whatever order the
turns come. To extract the plugins one after another is one of these orders.
-/

namespace NodeLocale

/-- What is still to be done to save artifacts. -/
inductive SavingTask
  /-- Create a directory, and its parents first if they are missing. -/
  | createDirectories (path : Path)
  /-- Create a directory whose parents were created. -/
  | ensureDirectory (path : Path)
  | write (path : Path) (text : String)

/-- Performs one operation on files for a task, and gives what is then to be done in place of the
task. There is no way on from an operation that fails. -/
def SavingTask.perform (tree : FileTree) : SavingTask → Option (FileTree × List SavingTask)
  | createDirectories path =>
    if path.text.isEmpty then some (tree, [])
    else
      match tree.createDirectory path with
      | .ok created => some (created, [])
      | .error .notFound =>
        path.parent?.map fun parent => (tree, [createDirectories parent, ensureDirectory path])
      | .error _ => if tree.isDirectory path then some (tree, []) else none
  | ensureDirectory path =>
    match tree.ensureDirectory path with
    | (ensured, .ok ()) => some (ensured, [])
    | (_, .error _) => none
  | write path text => (tree.writeText path text).toOption.map fun written => (written, [])

namespace PluginExtraction

/-- The artifacts of an extraction, by path. -/
def artifacts (extraction : PluginExtraction) : List (Path × String) :=
  [(extraction.dirs.nodesFile, Artifact.text extraction.survey.nodes.withoutSources.toJson),
    (extraction.dirs.reportFile, Artifact.text extraction.survey.report.toJson)]

/-- The tasks by which an artifact is saved. -/
def savingTasks (artifact : Path × String) : List SavingTask :=
  artifact.1.parent?.toList.map .createDirectories ++ [.write artifact.1 artifact.2]

/-- The tasks by which an extraction is saved, unless its directory could not be surveyed. -/
def tasks (extraction : PluginExtraction) : List SavingTask :=
  if extraction.survey.error.isSome then []
  else
    [extraction.dirs.temp, extraction.dirs.localized, extraction.dirs.logs,
      extraction.dirs.debug].map .createDirectories ++ extraction.artifacts.flatMap savingTasks

theorem save_eq_ok {extraction : PluginExtraction} {tree after : FileTree}
    (saved : extraction.save tree = (after, .ok ())) : ∃ first second,
      OutputDirs.createAll tree [extraction.dirs.temp, extraction.dirs.localized,
        extraction.dirs.logs, extraction.dirs.debug] = (first, .ok ()) ∧
      Artifact.saveText first extraction.dirs.nodesFile
        (Artifact.text extraction.survey.nodes.withoutSources.toJson) = (second, .ok ()) ∧
      Artifact.saveText second extraction.dirs.reportFile
        (Artifact.text extraction.survey.report.toJson) = (after, .ok ()) := by
  unfold save OutputDirs.create at saved
  generalize OutputDirs.createAll tree [extraction.dirs.temp, extraction.dirs.localized,
    extraction.dirs.logs, extraction.dirs.debug] = created at saved ⊢
  rcases created with ⟨first, error | _⟩
  · exact absurd (congrArg Prod.snd saved) (by simp)
  dsimp only [Artifact.saveJson] at saved
  generalize savedNodes : Artifact.saveText first extraction.dirs.nodesFile
    (Artifact.text extraction.survey.nodes.withoutSources.toJson) = nodes at saved
  rcases nodes with ⟨second, error | _⟩
  · exact absurd (congrArg Prod.snd saved) (by simp)
  · exact ⟨first, second, rfl, savedNodes, saved⟩

end PluginExtraction

/-- How far the work on a plugin has come. -/
inductive ExtractionStage
  | waiting
  /-- Some files were read and others are still unread. -/
  | reading (read : List Surveyed) (unread : List Path)
  | saving (extraction : PluginExtraction) (tasks : List SavingTask)

namespace ExtractionStage

/-- The work on a plugin goes on by one step. -/
def advance (settings : ExtractionSettings) (plugin : Path) (tree : FileTree) :
    ExtractionStage → Option (FileTree × ExtractionStage)
  | waiting =>
    match Survey.candidates settings.ignored tree plugin with
    | .error error =>
      let dirs := OutputDirs.ofPlugin settings.output ((tree.canonical? plugin).getD plugin)
      some (tree, saving ⟨dirs, { error := some error }⟩ [])
    | .ok files => some (tree, reading [] files)
  | reading read (file :: unread) =>
    some (tree, reading (read ++ [Survey.readFile tree file]) unread)
  | reading read [] =>
    let dirs := OutputDirs.ofPlugin settings.output ((tree.canonical? plugin).getD plugin)
    let extraction : PluginExtraction := ⟨dirs, .ofFiles settings.tables read⟩
    some (tree, saving extraction extraction.tasks)
  | saving extraction (task :: rest) =>
    (task.perform tree).map fun done => (done.1, saving extraction (done.2 ++ rest))
  | saving _ [] => none

/-- What the work on a plugin has come to when nothing is left to do. -/
def result? : ExtractionStage → Option PluginExtraction
  | saving extraction [] => some extraction
  | _ => none

end ExtractionStage

/-- The work on one plugin. -/
structure ExtractionJob where
  plugin : Path
  stage : ExtractionStage := .waiting

/-- Plugins that are extracted side by side on a file tree. -/
structure ParallelExtraction where
  tree : FileTree
  jobs : List ExtractionJob

namespace ParallelExtraction

variable (settings : ExtractionSettings)

def start (tree : FileTree) (plugins : List Path) : ParallelExtraction :=
  ⟨tree, plugins.map fun plugin => { plugin }⟩

/-- The work on the plugin at some position goes on by one step. -/
def turn (state : ParallelExtraction) (position : Nat) : Option ParallelExtraction := do
  let job ← state.jobs[position]?
  let (tree, stage) ← job.stage.advance settings job.plugin state.tree
  return ⟨tree, state.jobs.set position { job with stage }⟩

/-- The turns come in the order of a schedule, which names the position whose turn it is. -/
def follow : List Nat → ParallelExtraction → Option ParallelExtraction
  | [], state => some state
  | position :: schedule, state => (state.turn settings position).bind (follow schedule)

/-- Whether all work is done, with the given results. -/
def Comes (state : ParallelExtraction) (results : List PluginExtraction) : Prop :=
  state.jobs.map (fun job => job.stage.result?) = results.map some

end ParallelExtraction

/-! ### One plugin after another -/

namespace ExtractionStage

variable (settings : ExtractionSettings) (plugin : Path)

/-- Whether the work on a plugin comes from one stage to another if nothing else is worked on. -/
def Reaches : FileTree × ExtractionStage → FileTree × ExtractionStage → Prop :=
  Relation.ReflTransGen fun now next => now.2.advance settings plugin now.1 = some next

variable {settings plugin} {extraction : PluginExtraction} {tree after : FileTree} {path : Path}

theorem reaches_createDirectoriesWithin (fuel : Nat) (rest : List SavingTask)
    (created : FileTree.createDirectoriesWithin fuel tree path = (after, .ok ())) :
    Reaches settings plugin (tree, saving extraction (.createDirectories path :: rest))
      (after, saving extraction rest) := by
  induction fuel generalizing tree after path rest with
  | zero => simp [FileTree.createDirectoriesWithin] at created
  | succ fuel ih =>
    rw [FileTree.createDirectoriesWithin] at created
    by_cases empty : path.text.isEmpty
    · rw [if_pos empty, Prod.mk.injEq] at created
      apply Relation.ReflTransGen.single
      simp [advance, SavingTask.perform, empty, created.1]
    rw [if_neg empty] at created
    cases made : tree.createDirectory path with
    | ok directory =>
      simp only [made, Prod.mk.injEq, and_true] at created
      apply Relation.ReflTransGen.single
      simp [advance, SavingTask.perform, empty, made, created]
    | error error =>
      by_cases missing : error = .notFound
      · subst missing
        cases named : path.parent? with
        | none => simp [made, named] at created
        | some parent =>
          rcases parentMade : FileTree.createDirectoriesWithin fuel tree parent with
            ⟨reached, failure | _⟩
          · simp [made, named, parentMade] at created
          simp only [made, named, parentMade] at created
          have first : Reaches settings plugin
              (tree, saving extraction (.createDirectories path :: rest))
              (tree, saving extraction
                (.createDirectories parent :: .ensureDirectory path :: rest)) := by
            apply Relation.ReflTransGen.single
            simp [advance, SavingTask.perform, empty, made, named]
          apply (first.trans (ih _ parentMade)).tail
          simp [advance, SavingTask.perform, created]
      · have standing : (if tree.isDirectory path then (tree, Except.ok ())
            else (tree, .error error)) = (after, .ok ()) := by
          cases error <;> simp_all
        split at standing
        · rename_i directory
          rw [Prod.mk.injEq] at standing
          apply Relation.ReflTransGen.single
          cases error <;> simp_all [advance, SavingTask.perform]
        · simp at standing

theorem reaches_createDirectories (rest : List SavingTask)
    (created : tree.createDirectories path = (after, .ok ())) :
    Reaches settings plugin (tree, saving extraction (.createDirectories path :: rest))
      (after, saving extraction rest) :=
  reaches_createDirectoriesWithin _ rest created

theorem reaches_createAll {paths : List Path} (rest : List SavingTask)
    (created : OutputDirs.createAll tree paths = (after, .ok ())) :
    Reaches settings plugin (tree, saving extraction (paths.map .createDirectories ++ rest))
      (after, saving extraction rest) := by
  induction paths generalizing tree with
  | nil =>
    rw [OutputDirs.createAll, Prod.mk.injEq] at created
    rw [created.1]
    exact .refl
  | cons path others ih =>
    rw [OutputDirs.createAll] at created
    split at created
    · rename_i reached made
      exact (reaches_createDirectories _ made).trans (ih created)
    · simp at created

theorem reaches_prepareParent (rest : List SavingTask)
    (prepared : Artifact.prepareParent tree path = (after, .ok ())) :
    Reaches settings plugin
      (tree, saving extraction (path.parent?.toList.map .createDirectories ++ rest))
      (after, saving extraction rest) := by
  rw [Artifact.prepareParent] at prepared
  cases named : path.parent? with
  | none =>
    simp only [named, Prod.mk.injEq, and_true] at prepared
    rw [prepared]
    exact .refl
  | some parent =>
    simp only [named] at prepared
    split at prepared
    · rename_i empty
      simp only [Prod.mk.injEq, and_true] at prepared
      apply Relation.ReflTransGen.single
      simp [advance, SavingTask.perform, empty, prepared]
    split at prepared
    · rename_i made
      simp only [Prod.mk.injEq, and_true] at prepared
      rw [prepared] at made
      exact reaches_createDirectories _ made
    · simp at prepared

theorem reaches_saveText {text : String} (rest : List SavingTask)
    (saved : Artifact.saveText tree path text = (after, .ok ())) :
    Reaches settings plugin
      (tree, saving extraction (PluginExtraction.savingTasks (path, text) ++ rest))
      (after, saving extraction rest) := by
  rw [Artifact.saveText] at saved
  split at saved
  · simp at saved
  rename_i prepared
  split at saved
  · rename_i written wrote
    simp only [Prod.mk.injEq, and_true] at saved
    rw [PluginExtraction.savingTasks, List.append_assoc]
    apply (reaches_prepareParent _ prepared).tail
    simp [advance, SavingTask.perform, wrote, saved, Except.toOption]
  · simp at saved

theorem reaches_save (unfailed : extraction.survey.error = none)
    (saved : extraction.save tree = (after, .ok ())) :
    Reaches settings plugin (tree, saving extraction extraction.tasks)
      (after, saving extraction []) := by
  rcases PluginExtraction.save_eq_ok saved with ⟨first, second, created, savedNodes, savedReport⟩
  have tasks : extraction.tasks = [extraction.dirs.temp, extraction.dirs.localized,
      extraction.dirs.logs, extraction.dirs.debug].map .createDirectories ++
        (PluginExtraction.savingTasks (extraction.dirs.nodesFile,
          Artifact.text extraction.survey.nodes.withoutSources.toJson) ++
        (PluginExtraction.savingTasks (extraction.dirs.reportFile,
          Artifact.text extraction.survey.report.toJson) ++ [])) := by
    simp only [PluginExtraction.tasks, PluginExtraction.artifacts, unfailed, Option.isSome_none,
      Bool.false_eq_true, if_false, List.flatMap_cons, List.flatMap_nil]
  rw [tasks]
  exact (reaches_createAll _ created).trans
    ((reaches_saveText _ savedNodes).trans (reaches_saveText _ savedReport))

theorem reaches_surveyed (read : List Surveyed) (unread : List Path) :
    Reaches settings plugin (tree, reading read unread)
      (tree, reading (read ++ unread.map (Survey.readFile tree)) []) := by
  induction unread generalizing read with
  | nil =>
    rw [List.map_nil, List.append_nil]
    exact .refl
  | cons file others ih =>
    rw [List.map_cons, List.append_cons]
    exact .head rfl (ih _)

/-- The work on a plugin alone is its extraction. -/
theorem reaches_of_run (ran : PluginExtraction.run settings tree plugin = (after, .ok extraction)) :
    Reaches settings plugin (tree, waiting) (after, saving extraction []) := by
  rw [PluginExtraction.run] at ran
  split at ran
  · rename_i failed
    rw [Prod.mk.injEq, Except.ok.injEq] at ran
    rcases ran with ⟨rfl, rfl⟩
    apply Relation.ReflTransGen.single
    cases listed : Survey.candidates settings.ignored tree plugin with
    | error error =>
      simp [advance, listed, PluginExtraction.ofDirectory, Survey.ofDirectory]
    | ok files =>
      simp [PluginExtraction.ofDirectory, Survey.ofDirectory, listed, Survey.ofFiles] at failed
  · rename_i unfailed
    split at ran
    · rename_i saved
      rw [Prod.mk.injEq, Except.ok.injEq] at ran
      rcases ran with ⟨rfl, rfl⟩
      cases listed : Survey.candidates settings.ignored tree plugin with
      | error error =>
        simp [PluginExtraction.ofDirectory, Survey.ofDirectory, listed] at unfailed
      | ok files =>
        have survey : Survey.ofFiles settings.tables (files.map (Survey.readFile tree)) =
            (PluginExtraction.ofDirectory settings tree plugin).survey := by
          simp [PluginExtraction.ofDirectory, Survey.ofDirectory, listed]
        have start : Reaches settings plugin (tree, waiting) (tree, reading [] files) := by
          apply Relation.ReflTransGen.single
          simp [advance, listed]
        apply start.trans
        apply (reaches_surveyed [] files).trans
        apply Relation.ReflTransGen.head _ (reaches_save _ saved)
        · simp only [advance, List.nil_append, survey]
          rfl
        · simpa using unfailed
    · simp at ran

end ExtractionStage

namespace CommandLine

variable {settings : ExtractionSettings} {tree next : FileTree} {first : Path} {rest : List Path}
  {extraction : PluginExtraction} {results : List PluginExtraction}

theorem tree_extractAll_cons
    (ran : PluginExtraction.run settings tree first = (next, .ok extraction)) :
    (extractAll settings tree (first :: rest)).1 = (extractAll settings next rest).1 := by
  simp only [extractAll, ran]

/-- Where all plugins are extracted the first one is, and the others are after it. -/
theorem exists_of_extractAll_cons
    (succeeded : allOk (extractAll settings tree (first :: rest)).2 = .ok results) :
    ∃ next extraction later, PluginExtraction.run settings tree first = (next, .ok extraction) ∧
      allOk (extractAll settings next rest).2 = .ok later ∧ results = extraction :: later := by
  rcases ran : PluginExtraction.run settings tree first with ⟨next, error | extraction⟩
  · simp [extractAll, ran, allOk] at succeeded
  · simp only [extractAll, ran, allOk] at succeeded
    cases others : allOk (extractAll settings next rest).2 with
    | error error => simp [others, Except.map] at succeeded
    | ok later =>
      rw [others] at succeeded
      exact ⟨next, extraction, later, rfl, others, (Except.ok.inj succeeded).symm⟩

end CommandLine

namespace ParallelExtraction

variable {settings : ExtractionSettings} {plugin : Path} {tree after : FileTree}

/-- What the work on one plugin reaches, a schedule that gives it all turns reaches. -/
theorem exists_follow_of_reaches (front back : List ExtractionJob)
    {now next : FileTree × ExtractionStage}
    (reaches : ExtractionStage.Reaches settings plugin now next) :
    ∃ schedule, follow settings schedule ⟨now.1, front ++ ⟨plugin, now.2⟩ :: back⟩ =
      some ⟨next.1, front ++ ⟨plugin, next.2⟩ :: back⟩ := by
  induction reaches using Relation.ReflTransGen.head_induction_on with
  | refl => exact ⟨[], rfl⟩
  | head advanced _ ih =>
    rcases ih with ⟨schedule, followed⟩
    refine ⟨front.length :: schedule, ?_⟩
    rw [follow, turn]
    simp [advanced, followed]

theorem follow_append (front back : List Nat) (state : ParallelExtraction) :
    follow settings (front ++ back) state =
      (follow settings front state).bind (follow settings back) := by
  induction front generalizing state with
  | nil => rfl
  | cons position rest ih =>
    rw [List.cons_append, follow, follow, Option.bind_assoc]
    exact congrArg _ (funext ih)

theorem exists_follow_of_allOk {plugins : List Path} {results : List PluginExtraction}
    (succeeded : CommandLine.allOk (CommandLine.extractAll settings tree plugins).2 = .ok results)
    (done : List ExtractionJob) :
    ∃ schedule jobs, follow settings schedule ⟨tree, done ++ (start tree plugins).jobs⟩ =
        some ⟨(CommandLine.extractAll settings tree plugins).1, done ++ jobs⟩ ∧
      Comes ⟨(CommandLine.extractAll settings tree plugins).1, jobs⟩ results := by
  induction plugins generalizing tree results done with
  | nil =>
    obtain rfl := Except.ok.inj succeeded
    exact ⟨[], [], rfl, rfl⟩
  | cons plugin others ih =>
    rcases CommandLine.exists_of_extractAll_cons succeeded with
      ⟨first, extraction, later, ran, restSucceeded, rfl⟩
    rcases exists_follow_of_reaches done (start tree others).jobs
      (ExtractionStage.reaches_of_run ran) with ⟨own, ownFollowed⟩
    rcases ih restSucceeded (done ++ [⟨plugin, .saving extraction []⟩]) with
      ⟨schedule, jobs, followed, comes⟩
    rw [CommandLine.tree_extractAll_cons ran]
    refine ⟨own ++ schedule, ⟨plugin, .saving extraction []⟩ :: jobs, ?_, ?_⟩
    · rw [List.append_assoc, List.append_assoc] at followed
      rw [follow_append]
      change (follow settings own
        ⟨tree, done ++ ⟨plugin, .waiting⟩ :: (start tree others).jobs⟩).bind _ = _
      rw [ownFollowed]
      exact followed
    · rw [Comes, List.map_cons, List.map_cons]
      exact congrArg _ comes

/-- To extract plugins one after another is one order of the turns. -/
theorem exists_follow_of_extractAll {plugins : List Path} {results : List PluginExtraction}
    (succeeded : CommandLine.allOk (CommandLine.extractAll settings tree plugins).2 =
      .ok results) :
    ∃ schedule last, follow settings schedule (start tree plugins) = some last ∧
      last.tree = (CommandLine.extractAll settings tree plugins).1 ∧ last.Comes results := by
  rcases exists_follow_of_allOk succeeded [] with ⟨schedule, jobs, followed, comes⟩
  exact ⟨schedule, ⟨_, jobs⟩, followed, rfl, comes⟩

/-- A command that succeeds is an order of the turns as well. -/
theorem exists_follow_of_runExtract {plugins : List Path} {common : CommandLine.CommonOptions}
    {result : CommandLine.CommandResult}
    (succeeded : (CommandLine.runExtract tree plugins common).outcome = .ok result) :
    ∃ config results schedule last, CommandLine.loadSettings tree common = .ok config ∧
      (start tree plugins).follow (.ofConfig config) schedule = some last ∧
        last.tree = (CommandLine.runExtract tree plugins common).tree ∧
          last.Comes results ∧ result = CommandLine.extractResult results := by
  cases loaded : CommandLine.loadSettings tree common with
  | error error =>
    simp [CommandLine.runExtract, loaded, CommandLine.CommandRun.failed] at succeeded
  | ok config =>
    cases allOk : CommandLine.allOk
      (CommandLine.extractAll (.ofConfig config) tree plugins).2 with
    | error error =>
      simp [CommandLine.runExtract, loaded, allOk, CommandLine.CommandRun.failed] at succeeded
    | ok results =>
      simp only [CommandLine.runExtract, loaded, allOk, Except.ok.injEq] at succeeded ⊢
      rcases exists_follow_of_extractAll allOk with ⟨schedule, last, followed, same, comes⟩
      exact ⟨config, results, schedule, last, rfl, followed, same, comes, succeeded.symm⟩

end ParallelExtraction

end NodeLocale
