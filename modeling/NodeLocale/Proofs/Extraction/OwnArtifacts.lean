import Mathlib.Data.List.Nodup
import NodeLocale.FileTree.Changes
import NodeLocale.Proofs.Extraction.Steps

/-!
# Whose artifacts stay

Each of the plugins that are extracted side by side comes to what its directory held at first. Its
artifacts are still to be written or there already, as long as no plugin of the same name has other
ones; of those that have, the one that is written last stays.
-/

namespace NodeLocale

open FileTree

/-! ### Artifacts that are there -/

namespace ExtractionStage

variable {settings : ExtractionSettings} {plugin : Path} {first tree after : FileTree}
  {stage next : ExtractionStage}

/-- Whether each artifact of an extraction is either still to be written or there already. -/
inductive Delivers (tree : FileTree) : ExtractionStage → Prop
  | waiting : Delivers tree .waiting
  | reading {read : List Surveyed} {unread : List Path} : Delivers tree (.reading read unread)
  | saving {extraction : PluginExtraction} {tasks : List SavingTask}
      (written : ∀ path text, (path, text) ∈ extraction.artifacts →
        .write path text ∈ tasks ∨ tree.look path = .ok (.file text.toUTF8)) :
      Delivers tree (.saving extraction tasks)

/-- What was there stays where a step does not take its place, and what was written is there. -/
theorem Delivers.step (delivers : Delivers tree stage)
    (standing : first.isDirectory plugin = true)
    (advances : Advances settings first plugin tree stage after next)
    (kept : ∀ extraction tasks, stage = .saving extraction tasks → ∀ path text,
      (path, text) ∈ extraction.artifacts → tree.look path = .ok (.file text.toUTF8) →
        after.look path = .ok (.file text.toUTF8)) : Delivers after next := by
  cases advances with
  | begins listed => exact .reading
  | reads => exact .reading
  | surveys =>
    apply Delivers.saving
    intro path text member
    left
    exact (write_mem_tasks (PluginExtraction.unfailed_ofDirectory settings standing)).2 member
  | saves does =>
    rcases delivers with _ | _ | ⟨written⟩
    apply Delivers.saving
    intro path text member
    rcases written path text member with task | shown
    · cases does with
      | makes same grown silent =>
        rcases List.mem_cons.1 task with own | later
        · exact absurd (own ▸ List.mem_cons_self) (silent path text)
        · exact .inl (List.mem_append_right _ later)
      | writes wrote =>
        rcases List.mem_cons.1 task with own | later
        · rw [SavingTask.write.injEq] at own
          rcases own with ⟨rfl, rfl⟩
          exact .inr (Artifact.savedAs_of_writeText (Grown.refl tree) wrote).shown
        · exact .inl later
    · exact .inr (kept _ _ rfl path text member shown)

theorem Delivers.of_kept {other : ExtractionStage} (delivers : Delivers tree other)
    (kept : ∀ extraction tasks, other = .saving extraction tasks → ∀ path text,
      (path, text) ∈ extraction.artifacts → tree.look path = .ok (.file text.toUTF8) →
        after.look path = .ok (.file text.toUTF8)) : Delivers after other := by
  cases delivers with
  | waiting => exact .waiting
  | reading => exact .reading
  | saving written =>
    apply Delivers.saving
    intro path text member
    rcases written path text member with task | shown
    · exact .inl task
    · exact .inr (kept _ _ rfl path text member shown)

end ExtractionStage

namespace PluginExtraction

open ExtractionStage

variable {tree after : FileTree} {extraction other : PluginExtraction} {path : Path} {text : String}

/-- Whether the artifacts of an extraction hold what was extracted. -/
def Kept (tree : FileTree) (extraction : PluginExtraction) : Prop :=
  ∀ artifact ∈ extraction.artifacts, tree.look artifact.1 = .ok (.file artifact.2.toUTF8)

/-- What a step leaves does not take the place of an artifact, unless another plugin of the same
name has another text there. -/
theorem look_of_leaves (plain : Path.IsPlainName extraction.plugin)
    (otherPlain : Path.IsPlainName other.plugin)
    (output : extraction.dirs.output = other.dirs.output)
    (agree : extraction.plugin = other.plugin → extraction.artifacts = other.artifacts)
    (leaves : Leaves other tree after) (member : (path, text) ∈ extraction.artifacts)
    (shown : tree.look path = .ok (.file text.toUTF8)) :
    after.look path = .ok (.file text.toUTF8) := by
  cases leaves with
  | directories same grown => exact grown.look shown
  | @artifact otherPath otherText otherMember wrote =>
    have saved := Artifact.savedAs_of_writeText (Grown.refl tree) wrote
    by_cases same : path.target tree.workingDirectory = otherPath.target tree.workingDirectory
    · rcases same_of_target_eq plain otherPlain output member otherMember same with ⟨named, rfl⟩
      rw [← agree named] at otherMember
      rw [text_unique plain member otherMember]
      exact saved.shown
    · exact saved.look_of_ne (unseparated_of_look shown) same shown

end PluginExtraction

namespace ParallelExtraction

open PluginExtraction (ofDirectory)

variable {settings : ExtractionSettings} {first : FileTree} {plugins : List Path}
  {state next : ParallelExtraction} {position : Nat} {schedule : List Nat}

/-- Whether plugins are worked on as they were at first. -/
structure Steady (settings : ExtractionSettings) (first : FileTree) (plugins : List Path)
    (state : ParallelExtraction) : Prop where
  plugins : state.jobs.map ExtractionJob.plugin = plugins
  sources : SameSources first state.tree
  onTrack : ∀ job ∈ state.jobs, job.stage.OnTrack settings first job.plugin

theorem steady_start (settings : ExtractionSettings) (named : first.WellNamed)
    (plugins : List Path) : Steady settings first plugins (start first plugins) := by
  refine ⟨?_, .refl named, ?_⟩
  · simp [start, Function.comp_def]
  · intro job member
    rcases List.mem_map.1 member with ⟨plugin, -, rfl⟩
    exact .waiting

theorem turn_eq_some (turned : state.turn settings position = some next) :
    ∃ job tree stage, state.jobs[position]? = some job ∧
      job.stage.advance settings job.plugin state.tree = some (tree, stage) ∧
      next = ⟨tree, state.jobs.set position { job with stage }⟩ := by
  rw [turn] at turned
  cases found : state.jobs[position]? with
  | none => simp [found] at turned
  | some job =>
    cases advanced : job.stage.advance settings job.plugin state.tree with
    | none => simp [found, advanced] at turned
    | some reached =>
      simp only [found, advanced, Option.pure_def, Option.bind_eq_bind, Option.bind_some,
        Option.some.injEq] at turned
      exact ⟨job, reached.1, reached.2, rfl, advanced, turned.symm⟩

theorem Steady.advances (steady : Steady settings first plugins state)
    (standing : ∀ plugin ∈ plugins, first.isDirectory plugin = true)
    (turned : state.turn settings position = some next) : ∃ job stage,
      state.jobs[position]? = some job ∧ job ∈ state.jobs ∧ job.plugin ∈ plugins ∧
        ExtractionStage.Advances settings first job.plugin state.tree job.stage next.tree stage ∧
          next.jobs = state.jobs.set position { job with stage } := by
  rcases turn_eq_some turned with ⟨job, tree, stage, found, advanced, rfl⟩
  have member : job ∈ state.jobs := List.mem_of_getElem? found
  have listed : job.plugin ∈ plugins := by
    rw [← steady.plugins]
    exact List.mem_map_of_mem member
  have advances := (steady.onTrack job member).advances steady.sources (standing _ listed) advanced
  exact ⟨job, stage, found, member, listed, advances, rfl⟩

theorem Steady.turn (steady : Steady settings first plugins state)
    (standing : ∀ plugin ∈ plugins, first.isDirectory plugin = true)
    (turned : state.turn settings position = some next) : Steady settings first plugins next := by
  rcases steady.advances standing turned with ⟨job, stage, found, member, listed, advances, jobs⟩
  have onTrack := steady.onTrack job member
  have named := steady.sources.afterNamed
  have plain := PluginExtraction.plain_plugin settings steady.sources.beforeNamed
    (standing _ listed)
  refine ⟨?_, steady.sources.trans ((onTrack.leaves named advances).sameSources plain named), ?_⟩
  · rw [jobs, List.map_set, ← steady.plugins]
    apply List.ext_getElem?
    intro index
    by_cases here : index = position
    · subst here
      rcases List.getElem?_eq_some_iff.1 found with ⟨inside, same⟩
      simp [inside, same]
    · rw [List.getElem?_set_ne (Ne.symm here)]
  · intro other otherMember
    rw [jobs] at otherMember
    rcases List.mem_or_eq_of_mem_set otherMember with old | rfl
    · exact steady.onTrack other old
    · exact onTrack.step (standing _ listed) advances

theorem Steady.follow (steady : Steady settings first plugins state)
    (standing : ∀ plugin ∈ plugins, first.isDirectory plugin = true)
    (followed : state.follow settings schedule = some next) :
    Steady settings first plugins next := by
  induction schedule generalizing state with
  | nil =>
    rw [ParallelExtraction.follow, Option.some.injEq] at followed
    exact followed ▸ steady
  | cons position rest ih =>
    rw [ParallelExtraction.follow, Option.bind_eq_some_iff] at followed
    rcases followed with ⟨reached, turned, followed⟩
    exact ih (steady.turn standing turned) followed

/-- What comes of any order of the turns is what each plugin held at first. -/
theorem Steady.results_eq {results : List PluginExtraction}
    (steady : Steady settings first plugins state) (comes : state.Comes results) :
    results = plugins.map (ofDirectory settings first) := by
  apply List.map_injective_iff.2 fun _ _ => Option.some.inj
  rw [← comes, ← steady.plugins, List.map_map, List.map_map]
  apply List.map_congr_left
  intro job member
  have listed : job.stage.result? ∈ results.map some := by
    rw [← comes]
    exact List.mem_map_of_mem member
  rcases List.mem_map.1 listed with ⟨extraction, -, result⟩
  rw [← result]
  exact congrArg some ((steady.onTrack job member).result_eq result.symm)

/-- Whether plugins with the same name have the same artifacts. -/
def Agree (extractions : List PluginExtraction) : Prop :=
  ∀ extraction ∈ extractions, ∀ other ∈ extractions, extraction.plugin = other.plugin →
    extraction.artifacts = other.artifacts

theorem Steady.delivers_turn (steady : Steady settings first plugins state)
    (standing : ∀ plugin ∈ plugins, first.isDirectory plugin = true)
    (agree : Agree (plugins.map (ofDirectory settings first)))
    (delivers : ∀ job ∈ state.jobs, job.stage.Delivers state.tree)
    (turned : state.turn settings position = some next) :
    ∀ job ∈ next.jobs, job.stage.Delivers next.tree := by
  rcases steady.advances standing turned with ⟨job, stage, found, member, listed, advances, jobs⟩
  have leaves := (steady.onTrack job member).leaves steady.sources.afterNamed advances
  have kept : ∀ other ∈ state.jobs, ∀ extraction tasks, other.stage = .saving extraction tasks →
      ∀ path text, (path, text) ∈ extraction.artifacts →
        state.tree.look path = .ok (.file text.toUTF8) →
          next.tree.look path = .ok (.file text.toUTF8) := by
    intro other otherMember extraction tasks saving path text
    have onTrack := steady.onTrack other otherMember
    rw [saving] at onTrack
    rcases onTrack with _ | _ | ⟨own⟩
    have otherListed : other.plugin ∈ plugins := by
      rw [← steady.plugins]
      exact List.mem_map_of_mem otherMember
    have named := steady.sources.beforeNamed
    exact PluginExtraction.look_of_leaves
      (PluginExtraction.plain_plugin settings named (standing _ otherListed))
      (PluginExtraction.plain_plugin settings named (standing _ listed)) rfl
      (agree _ (List.mem_map_of_mem otherListed) _ (List.mem_map_of_mem listed)) leaves
  intro other otherMember
  rw [jobs] at otherMember
  rcases List.mem_or_eq_of_mem_set otherMember with old | rfl
  · exact (delivers other old).of_kept (kept other old)
  · exact (delivers job member).step (standing _ listed) advances (kept job member)

theorem Steady.delivers_follow (steady : Steady settings first plugins state)
    (standing : ∀ plugin ∈ plugins, first.isDirectory plugin = true)
    (agree : Agree (plugins.map (ofDirectory settings first)))
    (delivers : ∀ job ∈ state.jobs, job.stage.Delivers state.tree)
    (followed : state.follow settings schedule = some next) :
    ∀ job ∈ next.jobs, job.stage.Delivers next.tree := by
  induction schedule generalizing state with
  | nil =>
    rw [ParallelExtraction.follow, Option.some.injEq] at followed
    exact followed ▸ delivers
  | cons position rest ih =>
    rw [ParallelExtraction.follow, Option.bind_eq_some_iff] at followed
    rcases followed with ⟨reached, turned, followed⟩
    exact ih (steady.turn standing turned)
      (steady.delivers_turn standing agree delivers turned) followed

theorem Comes.kept {results : List PluginExtraction} (comes : state.Comes results)
    (delivers : ∀ job ∈ state.jobs, job.stage.Delivers state.tree) :
    ∀ extraction ∈ results, extraction.Kept state.tree := by
  intro extraction member
  have listed : some extraction ∈ state.jobs.map fun job => job.stage.result? := by
    rw [comes]
    exact List.mem_map_of_mem member
  rcases List.mem_map.1 listed with ⟨job, jobMember, result⟩
  have delivered := delivers job jobMember
  rcases job with ⟨plugin, _ | _ | ⟨saved, _ | _⟩⟩
  all_goals simp only [ExtractionStage.result?, reduceCtorEq, Option.some.injEq] at result
  subst result
  rcases delivered with _ | _ | ⟨written⟩
  intro artifact artifactMember
  rcases written artifact.1 artifact.2 artifactMember with task | shown
  · simp at task
  · exact shown

theorem agree_of_kept {results : List PluginExtraction} {directory : Path}
    (output : ∀ extraction ∈ results, extraction.dirs.output = directory)
    (kept : ∀ extraction ∈ results, extraction.Kept state.tree) : Agree results := by
  intro extraction member other otherMember named
  have dirs := PluginExtraction.dirs_eq
    ((output extraction member).trans (output other otherMember).symm) named
  have only : ∀ {path : Path} {text otherText : String},
      state.tree.look path = .ok (.file text.toUTF8) →
        state.tree.look path = .ok (.file otherText.toUTF8) → text = otherText := by
    intro path text otherText shown otherShown
    rw [shown, Except.ok.injEq, FileNode.file.injEq] at otherShown
    exact String.toByteArray_inj.1 otherShown
  have own := kept extraction member
  have others := kept other otherMember
  simp only [PluginExtraction.Kept, PluginExtraction.artifacts, List.forall_mem_cons,
    ← dirs] at own others
  rw [PluginExtraction.artifacts, PluginExtraction.artifacts, ← dirs, only own.1 others.1,
    only own.2.1 others.2.1]

theorem kept_of_agree {last : ParallelExtraction} {results : List PluginExtraction}
    (named : first.WellNamed) (standing : ∀ plugin ∈ plugins, first.isDirectory plugin = true)
    (followed : (start first plugins).follow settings schedule = some last)
    (comes : last.Comes results) (agree : Agree (plugins.map (ofDirectory settings first))) :
    ∀ extraction ∈ results, extraction.Kept last.tree := by
  apply comes.kept
  apply (steady_start settings named plugins).delivers_follow standing agree _ followed
  intro job member
  rcases List.mem_map.1 member with ⟨plugin, -, rfl⟩
  exact .waiting

/-- A plugin that is extracted alone keeps its artifacts. -/
theorem kept_of_run {plugin : Path} {alone : FileTree} {extraction : PluginExtraction}
    (named : first.WellNamed) (standing : first.isDirectory plugin = true)
    (ran : PluginExtraction.run settings first plugin = (alone, .ok extraction)) :
    extraction = ofDirectory settings first plugin ∧ extraction.Kept alone := by
  rcases exists_follow_of_reaches [] [] (ExtractionStage.reaches_of_run ran) with
    ⟨schedule, followed⟩
  have only : ∀ other ∈ [plugin], first.isDirectory other = true := by simpa using standing
  have comes : Comes ⟨alone, [⟨plugin, .saving extraction []⟩]⟩ [extraction] := rfl
  have results := ((steady_start settings named [plugin]).follow only followed).results_eq comes
  have agree : Agree ([plugin].map (ofDirectory settings first)) := by
    intro own member other otherMember _
    rw [List.map_singleton, List.mem_singleton] at member otherMember
    rw [member, otherMember]
  exact ⟨by simpa using results,
    kept_of_agree named only followed comes agree extraction (by simp)⟩

/-- Whatever the order of the turns, what comes of plugins that are extracted side by side is what
each of them held at first, as when it is extracted alone. All of it is found in their artifacts if
and only if plugins with the same name have the same artifacts. -/
theorem kept_iff_agree {last : ParallelExtraction} {results : List PluginExtraction}
    (named : first.WellNamed) (standing : ∀ plugin ∈ plugins, first.isDirectory plugin = true)
    (followed : (start first plugins).follow settings schedule = some last)
    (comes : last.Comes results) :
    results = plugins.map (ofDirectory settings first) ∧
      ((∀ extraction ∈ results, extraction.Kept last.tree) ↔ Agree results) ∧
      ∀ plugin ∈ plugins, ∀ alone extraction,
        PluginExtraction.run settings first plugin = (alone, .ok extraction) →
          extraction = ofDirectory settings first plugin ∧ extraction.Kept alone := by
  have steady := (steady_start settings named plugins).follow standing followed
  have results_eq := steady.results_eq comes
  have output : ∀ extraction ∈ results, extraction.dirs.output = settings.output := by
    rw [results_eq]
    intro extraction member
    rcases List.mem_map.1 member with ⟨plugin, -, rfl⟩
    rfl
  refine ⟨results_eq, ⟨agree_of_kept output, ?_⟩, ?_⟩
  · intro agree
    exact kept_of_agree named standing followed comes (results_eq ▸ agree)
  · intro plugin member alone extraction ran
    exact kept_of_run named (standing plugin member) ran

/-! ### Two plugins in turns -/

/-- It is enough that no two plugins have the same name. -/
theorem agree_of_nodup {extractions : List PluginExtraction}
    (different : (extractions.map PluginExtraction.plugin).Nodup) : Agree extractions := by
  intro extraction member other otherMember named
  rw [List.inj_on_of_nodup_map different member otherMember named]

/-- Whether the turns of a schedule can be taken and leave nothing to do. -/
def finishes (settings : ExtractionSettings) (schedule : List Nat) (state : ParallelExtraction) :
    Bool :=
  (state.follow settings schedule).any fun last =>
    last.jobs.all fun job => job.stage.result?.isSome

theorem exists_comes (finished : finishes settings schedule state = true) :
    ∃ last results, state.follow settings schedule = some last ∧ last.Comes results := by
  rcases (Option.any_eq_true _ _).1 finished with ⟨⟨tree, jobs⟩, followed, done⟩
  refine ⟨⟨tree, jobs⟩, jobs.filterMap fun job => job.stage.result?, followed, ?_⟩
  rw [Comes, List.map_filterMap]
  clear followed
  induction jobs with
  | nil => rfl
  | cons job others ih =>
    rw [List.all_cons, Bool.and_eq_true, Option.isSome_iff_exists] at done
    rcases done.1 with ⟨result, found⟩
    rw [List.map_cons, List.filterMap_cons, found, ih done.2]
    rfl

/-- Two plugins. -/
def sideBySide : FileTree :=
  .ofTexts [("demo/nodes.py", "class Blur:\n    RETURN_TYPES = (\"IMAGE\",)\n"),
    ("other/nodes.py", "class Mix:\n    RETURN_TYPES = (\"MASK\",)\n")]

/-- Two plugins in directories of the same name. -/
def namesakes : FileTree :=
  .ofTexts [("a/pack/nodes.py", "class Blur:\n    RETURN_TYPES = (\"IMAGE\",)\n"),
    ("b/pack/nodes.py", "class Mix:\n    RETURN_TYPES = (\"MASK\",)\n")]

/-- Two plugins with one file each take turns. -/
def alternation : List Nat := (List.replicate 15 [0, 1]).flatten

theorem kept_of_sideBySide : ∃ last results,
    (start sideBySide [⟨"demo"⟩, ⟨"other"⟩]).follow (.ofConfig {}) alternation = some last ∧
      last.Comes results ∧ ∀ extraction ∈ results, extraction.Kept last.tree := by
  have finished : finishes (.ofConfig {}) alternation
      (start sideBySide [⟨"demo"⟩, ⟨"other"⟩]) = true := by
    decide +kernel
  have different : (([⟨"demo"⟩, ⟨"other"⟩].map (ofDirectory (.ofConfig {}) sideBySide)).map
      PluginExtraction.plugin).Nodup := by
    decide +kernel
  rcases exists_comes finished with ⟨last, results, followed, comes⟩
  rcases kept_iff_agree (by decide +kernel) (by decide +kernel) followed comes with
    ⟨rfl, kept, -⟩
  exact ⟨last, _, followed, comes, kept.2 (agree_of_nodup different)⟩

/-- Different directories of the same name, and what one of them held is lost. -/
theorem lost_of_namesakes :
    namesakes.canonical? ⟨"a/pack"⟩ = some ⟨"/a/pack"⟩ ∧
      namesakes.canonical? ⟨"b/pack"⟩ = some ⟨"/b/pack"⟩ ∧
      ∃ last results,
        (start namesakes [⟨"a/pack"⟩, ⟨"b/pack"⟩]).follow (.ofConfig {}) alternation = some last ∧
          last.Comes results ∧ ¬∀ extraction ∈ results, extraction.Kept last.tree := by
  refine ⟨by decide +kernel, by decide +kernel, ?_⟩
  have finished : finishes (.ofConfig {}) alternation
      (start namesakes [⟨"a/pack"⟩, ⟨"b/pack"⟩]) = true := by
    decide +kernel
  rcases exists_comes finished with ⟨last, results, followed, comes⟩
  have steady := (steady_start (.ofConfig {}) (by decide +kernel) _).follow (by decide +kernel)
    followed
  refine ⟨last, results, followed, comes, ?_⟩
  intro kept
  rw [steady.results_eq comes] at kept
  have output : ∀ extraction ∈ [⟨"a/pack"⟩, ⟨"b/pack"⟩].map (ofDirectory (.ofConfig {}) namesakes),
      extraction.dirs.output = (ExtractionSettings.ofConfig {}).output := by
    decide +kernel
  have agree := agree_of_kept output kept
  have same := agree _ (List.mem_map_of_mem (a := ⟨"a/pack"⟩) (by simp)) _
    (List.mem_map_of_mem (a := ⟨"b/pack"⟩) (by simp)) (by decide +kernel)
  exact absurd same (by decide +kernel)

end ParallelExtraction

end NodeLocale
