import NodeLocale.Proofs.CommandLine.Agreement
import NodeLocale.Proofs.Extraction.OwnArtifacts
import NodeLocale.Proofs.Localization.Endings
import NodeLocale.Proofs.Reconcile.RepairLog

/-!
# Exit codes

A command that could run ends with code 1 where something needs attention and with code 0 where
nothing does. What needs attention is counted in two ways: by the issues that are errors, and by the
plugins that could not be surveyed or translated. The decisions of a repair are issues as well, but
each of them is about a node, and the only issue that is an error is about a file that was skipped.
So the count of a plugin is positive where its survey or its run went wrong, and the count of all
plugins that were reached is positive where that of one of them is. A run that panics takes its
command with it, which then is none that could run.
-/

namespace NodeLocale

/-! ### Errors among issues -/

/-- Whether no entry of a log is an error. -/
def CorrectionLog.IsHarmless (log : CorrectionLog) : Prop :=
  ∀ issue ∈ log, issue.severity ≠ .error

theorem Issue.severity_ne_error {issue : Issue} {node : String}
    (aboutNode : issue.node? = some node) : issue.severity ≠ .error := by
  cases issue with
  | parseFailure file error => simp [node?] at aboutNode
  | _ => simp [severity]

namespace CorrectionLog

variable {first second : CorrectionLog}

theorem isHarmless_nil : IsHarmless [] := by simp [IsHarmless]

theorem IsHarmless.append (left : first.IsHarmless) (right : second.IsHarmless) :
    IsHarmless (first ++ second) := by
  intro issue member
  exact (List.mem_append.1 member).elim (left issue) (right issue)

end CorrectionLog

open CorrectionLog (isHarmless_nil)

theorem Repair.isHarmless_reconcileBy (verdict : Option Json → Verdict) (source : NodeMap)
    (candidate : JsonObject) : (reconcileBy verdict source candidate).log.IsHarmless := by
  intro issue member
  rcases List.mem_flatMap.1 member with ⟨entry, -, recorded⟩
  exact Issue.severity_ne_error (node?_of_mem_issues recorded)

theorem Glossary.isHarmless_issues (glossary : Glossary) (nodes : NodeMap) :
    CorrectionLog.IsHarmless (glossary.issues nodes) := by
  intro issue member
  rcases List.mem_flatMap.1 member with ⟨⟨node, schema⟩, -, member⟩
  rcases List.mem_flatMap.1 member with ⟨part, -, member⟩
  rcases List.mem_filterMap.1 member with ⟨⟨key, label⟩, -, recorded⟩
  have aboutNode : issue.node? = some node := by
    rw [issue?] at recorded
    split at recorded
    · split at recorded
      · simp at recorded
      · rw [← Option.some.inj recorded]
        rfl
    · simp at recorded
  exact Issue.severity_ne_error aboutNode

namespace LocalizationRun

variable {run : LocalizationRun} {total : Nat}

theorem isHarmless_applyGlossary {validated : Reconciled} (harmless : validated.log.IsHarmless) :
    (run.applyGlossary validated).1.log.IsHarmless := by
  rw [applyGlossary]
  split
  · exact harmless
  · exact harmless.append (Glossary.isHarmless_issues _ _)

theorem BatchStep.isHarmless {batch : Batch} {before after : RunState}
    (step : BatchStep run total batch before after (.ok ()))
    (harmless : before.batchLog.IsHarmless) : after.batchLog.IsHarmless := by
  cases step with
  | resumed found => exact harmless
  | translated absent answered counted read saved =>
    exact harmless.append (Repair.isHarmless_reconcileBy _ _ _)

theorem Processed.isHarmless {done : List Batch} {first last : RunState}
    (processed : Processed run total done first last) (harmless : first.batchLog.IsHarmless) :
    last.batchLog.IsHarmless := by
  induction processed with
  | none => exact harmless
  | next earlier unseen step ih => exact step.isHarmless (ih harmless)

/-- Nothing that a completed run decided is an error. -/
theorem isHarmless_of_completed {start : FileTree} {nodes : NodeMap} {result : CompletedRun}
    (completed : (run.execute start nodes).2 = .ok (.completed result)) :
    CorrectionLog.IsHarmless (result.batchLog ++ result.finalLog) := by
  rcases processed_of_completed completed with
    ⟨prepared, last, tree, -, -, processed, -, reached, same⟩
  have batchLog : result.batchLog = last.batchLog := by
    rw [same, completion, reached, batchLog_afterResult]
  have finalLog : result.finalLog = (run.validated nodes.withoutSources last).log := by
    rw [same, completion]
  rw [batchLog, finalLog]
  exact (processed.isHarmless isHarmless_nil).append
    (isHarmless_applyGlossary (Repair.isHarmless_reconcileBy _ _ _))

end LocalizationRun

/-! ### Surveys -/

namespace Survey

variable {tables : TypeTables} {ignored : List Glob} {tree : FileTree} {root file : Path}

/-- Whether a file could not be parsed: it is no text, or the text is no program. -/
inductive Unparsed (tree : FileTree) (file : Path) : Prop
  | unread {error : FileError} (failed : tree.readText file = .error error)
  | invalid {source : String} {fault : Script.SyntaxFault} (read : tree.readText file = .ok source)
      (failed : Script.Program.parse source = .error fault)

/-- Whether a directory could not be surveyed, or one of the files in it could not be parsed. -/
inductive Faulty (ignored : List Glob) (tree : FileTree) (root : Path) : Prop
  | unscanned {error : SurveyError} (failed : candidates ignored tree root = .error error)
  | skipped {files : List Path} {file : Path} (listed : candidates ignored tree root = .ok files)
      (member : file ∈ files) (unparsed : Unparsed tree file)

/-- Whether a survey counts as a problem or holds an error. -/
def IsFlawed (survey : Survey) : Prop :=
  (∃ issue ∈ survey.issues, issue.severity = .error) ∨ survey.error.isSome = true

theorem unparsed_iff :
    Unparsed tree file ↔ ∃ error, (readFile tree file).outcome = .error error := by
  constructor
  · rintro (failed | ⟨read, failed⟩)
    · simp [readFile, failed]
    · simp [readFile, read, failed]
  · rintro ⟨error, skipped⟩
    rw [readFile] at skipped
    split at skipped
    · rename_i failed
      exact .unread failed
    · rename_i source read
      split at skipped
      · rename_i failed
        exact .invalid read failed
      · simp at skipped

theorem exists_error_issue_iff {files : List Path} :
    (∃ issue ∈ (ofFiles tables (files.map (readFile tree))).issues, issue.severity = .error) ↔
      ∃ file ∈ files, Unparsed tree file := by
  simp only [ofFiles, List.filterMap_map, List.mem_filterMap, unparsed_iff]
  constructor
  · rintro ⟨issue, ⟨file, member, found⟩, -⟩
    refine ⟨file, member, ?_⟩
    rw [Function.comp_apply, Surveyed.issue?] at found
    split at found
    · simp at found
    · rename_i error skipped
      exact ⟨error, skipped⟩
  · rintro ⟨file, member, error, skipped⟩
    refine ⟨.parseFailure (readFile tree file).file.text error, ⟨file, member, ?_⟩, rfl⟩
    rw [Function.comp_apply, Surveyed.issue?, skipped]

theorem isFlawed_ofDirectory_iff :
    (ofDirectory tables ignored tree root).IsFlawed ↔ Faulty ignored tree root := by
  cases listed : candidates ignored tree root with
  | error error =>
    have faulty : Faulty ignored tree root := .unscanned listed
    simp [IsFlawed, ofDirectory, listed, faulty]
  | ok files =>
    have surveyed : (ofFiles tables (files.map (readFile tree))).error = none := rfl
    rw [IsFlawed, ofDirectory, listed]
    simp only [exists_error_issue_iff, surveyed, Option.isSome_none, Bool.false_eq_true, or_false]
    constructor
    · rintro ⟨file, member, unparsed⟩
      exact .skipped listed member unparsed
    · rintro (failed | ⟨others, member, unparsed⟩)
      · simp [listed] at failed
      · obtain rfl := Except.ok.inj (listed.symm.trans others)
        exact ⟨_, member, unparsed⟩

end Survey

open Survey (Faulty)

theorem PluginExtraction.eq_of_run {settings : ExtractionSettings} {tree after : FileTree}
    {plugin : Path} {extraction : PluginExtraction}
    (ran : run settings tree plugin = (after, .ok extraction)) :
    extraction = ofDirectory settings tree plugin := by
  rw [run] at ran
  split at ran
  · exact (Except.ok.inj (Prod.mk.inj ran).2).symm
  · split at ran
    · exact (Except.ok.inj (Prod.mk.inj ran).2).symm
    · simp at ran

theorem PluginExtraction.isFlawed_of_run {settings : ExtractionSettings} {tree after : FileTree}
    {plugin : Path} {extraction : PluginExtraction}
    (ran : run settings tree plugin = (after, .ok extraction)) :
    extraction.survey.IsFlawed ↔ Faulty settings.ignored tree plugin := by
  rw [eq_of_run ran]
  exact Survey.isFlawed_ofDirectory_iff

namespace CommandLine

/-! ### Codes -/

theorem code_ofIssues_iff {summary : Summary} {issues : List Issue} {others : Nat} :
    (CommandResult.ofIssues summary issues others true).code = 1 ↔
      (∃ issue ∈ issues, issue.severity = .error) ∨ 0 < others := by
  have positive : 0 < issues.countP (fun issue => issue.severity = .error) ↔
      ∃ issue ∈ issues, issue.severity = .error := by simp [List.countP_pos_iff]
  rw [← positive, ← Nat.add_pos_iff_pos_or_pos, CommandResult.code, CommandResult.ofIssues]
  simp only [Bool.true_and, decide_eq_true_eq, ite_eq_left_iff, zero_ne_one, imp_false, not_not]

theorem code_eq_zero_iff (result : CommandResult) : result.code = 0 ↔ result.code ≠ 1 := by
  rw [CommandResult.code]
  split <;> simp

/-! ### Extractions -/

variable {tree : FileTree}

theorem code_extractResult_iff {extractions : List PluginExtraction} :
    (extractResult extractions).code = 1 ↔
      ∃ extraction ∈ extractions, extraction.survey.IsFlawed := by
  rw [extractResult, code_ofIssues_iff, List.countP_pos_iff]
  constructor
  · rintro (⟨issue, member, isError⟩ | ⟨extraction, member, failed⟩)
    · rcases List.mem_flatMap.1 member with ⟨extraction, member, recorded⟩
      exact ⟨extraction, member, .inl ⟨issue, recorded, isError⟩⟩
    · exact ⟨extraction, member, .inr failed⟩
  · rintro ⟨extraction, member, ⟨issue, recorded, isError⟩ | failed⟩
    · exact .inl ⟨issue, List.mem_flatMap.2 ⟨extraction, member, recorded⟩, isError⟩
    · exact .inr ⟨extraction, member, failed⟩

/-- Plugins that are directories at first may be extracted in any order of the turns. -/
theorem code_of_follow {settings : ExtractionSettings} {plugins : List Path} {schedule : List Nat}
    {last : ParallelExtraction} {results : List PluginExtraction} (named : tree.WellNamed)
    (standing : ∀ plugin ∈ plugins, tree.isDirectory plugin = true)
    (followed : (ParallelExtraction.start tree plugins).follow settings schedule = some last)
    (comes : last.Comes results) :
    (extractResult results).code = 1 ↔ ∃ plugin ∈ plugins, Faulty settings.ignored tree plugin := by
  have steady := (ParallelExtraction.steady_start settings named plugins).follow standing followed
  rw [code_extractResult_iff, steady.results_eq comes]
  simp only [List.mem_map, exists_exists_and_eq_and, PluginExtraction.ofDirectory,
    Survey.isFlawed_ofDirectory_iff]

/-- A list is split at its first item or behind it. -/
theorem exists_split_cons {α : Type} {first : α} {rest : List α} {p : List α → α → Prop} :
    (∃ before item after, first :: rest = before ++ item :: after ∧ p before item) ↔
      p [] first ∨
        ∃ before item after, rest = before ++ item :: after ∧ p (first :: before) item := by
  constructor
  · rintro ⟨_ | ⟨other, before⟩, item, after, split, holds⟩
    · rw [List.nil_append, List.cons.injEq] at split
      exact .inl (split.1 ▸ holds)
    · rw [List.cons_append, List.cons.injEq] at split
      exact .inr ⟨before, item, after, split.2, split.1 ▸ holds⟩
  · rintro (holds | ⟨before, item, after, rfl, holds⟩)
    · exact ⟨[], first, rest, rfl, holds⟩
    · exact ⟨first :: before, item, after, rfl, holds⟩

/-- Something is amiss with extractions if and only if it is with a plugin when its turn comes. -/
theorem exists_isFlawed_extractAll {settings : ExtractionSettings} {plugins : List Path}
    {extractions : List PluginExtraction}
    (succeeded : allOk (extractAll settings tree plugins).2 = .ok extractions) :
    (∃ extraction ∈ extractions, extraction.survey.IsFlawed) ↔
      ∃ before plugin after, plugins = before ++ plugin :: after ∧
        Faulty settings.ignored (extractAll settings tree before).1 plugin := by
  induction plugins generalizing tree extractions with
  | nil =>
    obtain rfl := Except.ok.inj succeeded
    simp
  | cons first rest ih =>
    rcases exists_of_extractAll_cons succeeded with ⟨next, extraction, later, ran, others, rfl⟩
    rw [exists_split_cons]
    simp only [List.mem_cons, exists_eq_or_imp, tree_extractAll_cons ran, ih others,
      PluginExtraction.isFlawed_of_run ran]
    rfl

/-! ### Translations -/

variable {settings : TranslateSettings} {state next : TranslateState} {plugin : Path}

/-- Whether errors or problems have been counted. -/
def TranslateState.IsFlawed (state : TranslateState) : Prop :=
  (∃ issue ∈ state.issues, issue.severity = .error) ∨ 0 < state.problems

/-- The run that translates the nodes of a plugin. -/
def runOf (settings : TranslateSettings) (state : TranslateState) (extraction : PluginExtraction) :
    LocalizationRun where
  service := settings.service
  options := settings.options
  dirs := .ofPlugin settings.extraction.output ⟨extraction.plugin⟩
  cancel := settings.interrupts state.plugins.length

/-- The end of the run that a plugin comes to if it has nodes. -/
inductive RunEnds (settings : TranslateSettings) (state : TranslateState) (plugin : Path) :
    Except TranslateError RunOutcome → Prop
  | intro {extracted prepared : FileTree} {extraction : PluginExtraction} {ended : RunState}
      {outcome : Except TranslateError RunOutcome}
      (ran : PluginExtraction.run settings.extraction state.tree plugin =
        (extracted, .ok extraction))
      (surveyed : extraction.survey.error = none)
      (present : extraction.survey.nodes.isEmpty = false)
      (created : OutputDirs.create extracted (runOf settings state extraction).dirs =
        (prepared, .ok ()))
      (executed : (runOf settings state extraction).execute prepared extraction.survey.nodes =
        (ended, outcome)) : RunEnds settings state plugin outcome

/-- Whether a plugin that is translated needs attention: it is faulty, or its run failed or was
cancelled. -/
inductive Troublesome (settings : TranslateSettings) (state : TranslateState) (plugin : Path) : Prop
  | faulty (faulty : Faulty settings.extraction.ignored state.tree plugin)
  | failed {error : TranslateError} (ended : RunEnds settings state plugin (.error error))
  | cancelled {completed total : Nat}
      (ended : RunEnds settings state plugin (.ok (.cancelled completed total)))

/-- Whether a plugin is reached, and in which state: each plugin before it was dealt with, and the
run of none of them was cancelled. -/
inductive Reached (settings : TranslateSettings) :
    List Path → TranslateState → Path → TranslateState → Prop
  | first (plugin : Path) (rest : List Path) (state : TranslateState) :
      Reached settings (plugin :: rest) state plugin state
  | later {first plugin : Path} {rest : List Path} {state next visited : TranslateState}
      (ended : translatePlugin settings first state = (next, .ok false))
      (reached : Reached settings rest next plugin visited) :
      Reached settings (first :: rest) state plugin visited

/-- What translating a plugin comes to, unless something cannot be saved. -/
inductive PluginStep (settings : TranslateSettings) (plugin : Path) (state : TranslateState) :
    TranslateState → Bool → Prop
  | unsurveyed {extracted : FileTree} {extraction : PluginExtraction} {error : SurveyError}
      (ran : PluginExtraction.run settings.extraction state.tree plugin =
        (extracted, .ok extraction))
      (failed : extraction.survey.error = some error) :
      PluginStep settings plugin state
        (TranslateState.record
          { state with tree := extracted, issues := state.issues ++ extraction.survey.issues }
          extraction.plugin (.failed error.message)) false
  | withoutNodes {extracted : FileTree} {extraction : PluginExtraction}
      (ran : PluginExtraction.run settings.extraction state.tree plugin =
        (extracted, .ok extraction))
      (surveyed : extraction.survey.error = none)
      (absent : extraction.survey.nodes.isEmpty = true) :
      PluginStep settings plugin state
        (TranslateState.record
          { state with tree := extracted, issues := state.issues ++ extraction.survey.issues }
          extraction.plugin .noNodes) false
  | translated {extracted prepared : FileTree} {extraction : PluginExtraction} {ended : RunState}
      {outcome : Except TranslateError RunOutcome} {status : LocalizationStatus}
      (ran : PluginExtraction.run settings.extraction state.tree plugin =
        (extracted, .ok extraction))
      (surveyed : extraction.survey.error = none)
      (present : extraction.survey.nodes.isEmpty = false)
      (created : OutputDirs.create extracted (runOf settings state extraction).dirs =
        (prepared, .ok ()))
      (executed : (runOf settings state extraction).execute prepared extraction.survey.nodes =
        (ended, outcome))
      (amounts : statusOf outcome = .ok status) :
      PluginStep settings plugin state
        (TranslateState.record
          { state with
            tree := ended.tree
            progress := state.progress ++
              runHeader (runOf settings state extraction).dirs.plugin :: ended.events.map eventLine
            issues := state.issues ++ extraction.survey.issues ++ issuesOf status }
          extraction.plugin status) (isCancelled status)

/-- A run that failed amounts to a failure, unless it panicked. -/
theorem status_of_failed {error : TranslateError} {status : LocalizationStatus}
    (amounts : statusOf (.error error) = .ok status) : status = .failed error.message := by
  cases error with
  | panicked batch => simp [statusOf] at amounts
  | _ => exact (Except.ok.inj amounts).symm

theorem translateNodes_of_execute {extraction : PluginExtraction} {prepared : FileTree}
    {issues : List Issue} {nodes : NodeMap} {ended : RunState}
    {outcome : Except TranslateError RunOutcome} {status : LocalizationStatus}
    (executed : (runOf settings state extraction).execute prepared nodes = (ended, outcome))
    (amounts : statusOf outcome = .ok status) :
    translateNodes settings (runOf settings state extraction).dirs nodes
        { state with tree := prepared, issues } =
      ({ state with
          tree := ended.tree
          progress := state.progress ++
            runHeader (runOf settings state extraction).dirs.plugin :: ended.events.map eventLine
          issues := issues ++ issuesOf status }, .ok status) := by
  unfold translateNodes
  rw [runOf] at executed ⊢
  dsimp only
  rw [executed]
  dsimp only
  rw [amounts]

/-- A run that panicked takes its command with it. -/
theorem translateNodes_of_panicked {extraction : PluginExtraction} {prepared : FileTree}
    {nodes : NodeMap} {ended : RunState} {outcome : Except TranslateError RunOutcome}
    {error : CommandError} (issues : List Issue)
    (executed : (runOf settings state extraction).execute prepared nodes = (ended, outcome))
    (panicked : statusOf outcome = .error error) :
    ∃ last, translateNodes settings (runOf settings state extraction).dirs nodes
      { state with tree := prepared, issues } = (last, .error error) := by
  unfold translateNodes
  rw [runOf] at executed ⊢
  dsimp only
  rw [executed]
  dsimp only
  rw [panicked]
  exact ⟨_, rfl⟩

theorem pluginStep_of_translatePlugin {stops : Bool}
    (ended : translatePlugin settings plugin state = (next, .ok stops)) :
    PluginStep settings plugin state next stops := by
  rcases ran : PluginExtraction.run settings.extraction state.tree plugin with
    ⟨extracted, error | extraction⟩
  · simp [translatePlugin, ran] at ended
  cases surveyed : extraction.survey.error with
  | some error =>
    simp only [translatePlugin, ran, surveyed, Prod.mk.injEq, Except.ok.injEq] at ended
    obtain ⟨rfl, rfl⟩ := ended
    exact .unsurveyed ran surveyed
  | none =>
    cases present : extraction.survey.nodes.isEmpty with
    | true =>
      simp only [translatePlugin, ran, surveyed, present, if_true, Prod.mk.injEq,
        Except.ok.injEq] at ended
      obtain ⟨rfl, rfl⟩ := ended
      exact .withoutNodes ran surveyed present
    | false =>
      have dirs : OutputDirs.ofPlugin settings.extraction.output ⟨extraction.plugin⟩ =
        (runOf settings state extraction).dirs := rfl
      rcases created : OutputDirs.create extracted (runOf settings state extraction).dirs with
        ⟨prepared, error | _⟩
      · simp [translatePlugin, ran, surveyed, present, dirs, created] at ended
      rcases executed : (runOf settings state extraction).execute prepared extraction.survey.nodes
        with ⟨last, outcome⟩
      cases amounts : statusOf outcome with
      | error error =>
        rcases translateNodes_of_panicked (state.issues ++ extraction.survey.issues) executed
          amounts with ⟨broken, panicked⟩
        simp [translatePlugin, ran, surveyed, present, dirs, created, panicked] at ended
      | ok status =>
        simp only [translatePlugin, ran, surveyed, present, dirs, created,
          translateNodes_of_execute executed amounts, Bool.false_eq_true, if_false,
          Prod.mk.injEq, Except.ok.injEq] at ended
        obtain ⟨rfl, rfl⟩ := ended
        exact .translated ran surveyed present created executed amounts

/-- Errors and problems add up. -/
theorem isFlawed_of_counted {added : List Issue} {problems : Nat}
    (issues : next.issues = state.issues ++ added)
    (counted : next.problems = state.problems + problems) :
    next.IsFlawed ↔
      state.IsFlawed ∨ (∃ issue ∈ added, issue.severity = .error) ∨ 0 < problems := by
  rw [TranslateState.IsFlawed, TranslateState.IsFlawed, issues, counted]
  simp only [List.mem_append, or_and_right, exists_or, Nat.add_pos_iff_pos_or_pos]
  exact or_or_or_comm

/-- A plugin has at most one run. -/
theorem RunEnds.unique {extracted prepared : FileTree} {extraction : PluginExtraction}
    {ended : RunState} {outcome other : Except TranslateError RunOutcome}
    (ran : PluginExtraction.run settings.extraction state.tree plugin =
      (extracted, .ok extraction))
    (created : OutputDirs.create extracted (runOf settings state extraction).dirs =
      (prepared, .ok ()))
    (executed : (runOf settings state extraction).execute prepared extraction.survey.nodes =
      (ended, outcome))
    (ends : RunEnds settings state plugin other) : other = outcome := by
  rcases ends with ⟨otherRan, -, -, otherCreated, otherExecuted⟩
  rw [ran, Prod.mk.injEq, Except.ok.injEq] at otherRan
  obtain ⟨rfl, rfl⟩ := otherRan
  rw [created, Prod.mk.injEq] at otherCreated
  obtain ⟨rfl, -⟩ := otherCreated
  rw [executed, Prod.mk.injEq] at otherExecuted
  exact otherExecuted.2.symm

/-- A plugin whose run completes, if there is one, needs attention only if it is faulty. -/
theorem troublesome_iff_faulty (completes : ∀ outcome, RunEnds settings state plugin outcome →
      ∃ result, outcome = .ok (.completed result)) :
    Troublesome settings state plugin ↔ Faulty settings.extraction.ignored state.tree plugin := by
  constructor
  · rintro (faulty | ended | ended)
    · exact faulty
    · simpa using completes _ ended
    · simpa using completes _ ended
  · exact .faulty

/-- A plugin adds to what is counted if and only if it needs attention. -/
theorem PluginStep.isFlawed_iff {stops : Bool}
    (step : PluginStep settings plugin state next stops) :
    next.IsFlawed ↔ state.IsFlawed ∨ Troublesome settings state plugin := by
  cases step with
  | unsurveyed ran failed =>
    have faulty : Troublesome settings state plugin :=
      .faulty ((PluginExtraction.isFlawed_of_run ran).1 (.inr (by simp [failed])))
    rw [isFlawed_of_counted rfl rfl]
    simp [faulty]
  | withoutNodes ran surveyed absent =>
    have completes : ∀ outcome, RunEnds settings state plugin outcome →
        ∃ result, outcome = .ok (.completed result) := by
      rintro outcome ⟨otherRan, -, present, -, -⟩
      rw [ran, Prod.mk.injEq, Except.ok.injEq] at otherRan
      rw [← otherRan.2, absent] at present
      cases present
    rw [isFlawed_of_counted rfl rfl, troublesome_iff_faulty completes,
      ← PluginExtraction.isFlawed_of_run ran]
    simp [Survey.IsFlawed, surveyed]
  | @translated _ _ _ _ outcome _ ran surveyed present created executed amounts =>
    have ends : RunEnds settings state plugin outcome :=
      .intro ran surveyed present created executed
    rw [isFlawed_of_counted (List.append_assoc ..) rfl]
    rcases outcome with error | result | ⟨completed, total⟩
    · have troublesome : Troublesome settings state plugin := .failed ends
      rw [status_of_failed amounts]
      simp [troublesome]
    · -- The issues of a completed run are decisions, so only those of the survey count.
      obtain rfl := Except.ok.inj amounts
      have harmless := LocalizationRun.isHarmless_of_completed (congrArg Prod.snd executed)
      have quiet : ¬∃ issue ∈ issuesOf (.completed result), issue.severity = .error :=
        fun ⟨issue, member, isError⟩ => harmless issue member isError
      rw [troublesome_iff_faulty fun _ other => ⟨result, other.unique ran created executed⟩,
        ← PluginExtraction.isFlawed_of_run ran]
      simp only [List.mem_append, or_and_right, exists_or, quiet, or_false]
      simp [Survey.IsFlawed, surveyed]
    · obtain rfl := Except.ok.inj amounts
      have troublesome : Troublesome settings state plugin := .cancelled ends
      simp [troublesome]

theorem reached_cons_iff {first : Path} {rest : List Path} {visited : TranslateState} :
    Reached settings (first :: rest) state plugin visited ↔
      (plugin = first ∧ visited = state) ∨
        ∃ next, translatePlugin settings first state = (next, .ok false) ∧
          Reached settings rest next plugin visited := by
  constructor
  · intro reached
    cases reached with
    | first => exact .inl ⟨rfl, rfl⟩
    | later ended reached => exact .inr ⟨_, ended, reached⟩
  · rintro (⟨rfl, rfl⟩ | ⟨next, ended, reached⟩)
    · exact .first ..
    · exact .later ended reached

/-- What is counted in the end is positive if and only if a plugin that was reached needs
attention. -/
theorem isFlawed_translateAll {plugins : List Path} {last : TranslateState}
    (ended : translateAll settings plugins state = (last, .ok ())) :
    last.IsFlawed ↔ state.IsFlawed ∨ ∃ plugin visited,
      Reached settings plugins state plugin visited ∧ Troublesome settings visited plugin := by
  induction plugins generalizing state with
  | nil =>
    obtain ⟨rfl, -⟩ := Prod.mk.inj ended
    have none : ∀ plugin visited, ¬Reached settings [] state plugin visited := by
      intro plugin visited reached
      cases reached
    simp [none]
  | cons first rest ih =>
    rcases went : translatePlugin settings first state with ⟨next, error | stops⟩
    · simp [translateAll, went] at ended
    have step := (pluginStep_of_translatePlugin went).isFlawed_iff
    cases stops with
    | true =>
      -- A cancelled run is the last: nothing behind its plugin is reached.
      simp only [translateAll, went, Prod.mk.injEq] at ended
      rw [← ended.1, step]
      simp [reached_cons_iff, went]
    | false =>
      simp only [translateAll, went] at ended
      rw [ih ended, step, or_assoc]
      simp [reached_cons_iff, went, or_and_right, exists_or]

/-! ### Commands -/

/-- Whether something needs attention after a command that could run. -/
inductive NeedsAttention (programs : Programs) (interrupts : Interrupts) (tree : FileTree) :
    Command → Prop
  /-- A plugin could not be surveyed, or one of its files could not be parsed. -/
  | extracted {plugins before after : List Path} {plugin : Path} {common : CommonOptions}
      {config : Config} (configured : loadSettings tree common = .ok config)
      (split : plugins = before ++ plugin :: after)
      (faulty : Faulty config.ignorePatterns
        (extractAll (.ofConfig config) tree before).1 plugin) :
      NeedsAttention programs interrupts tree (.extract plugins common)
  /-- So it was with a plugin that was reached, or its run failed or was cancelled. -/
  | translated {plugins : List Path} {plugin : Path} {options : TranslateOptions}
      {common : CommonOptions} {settings : TranslateSettings} {visited : TranslateState}
      (settled : translateSettings programs tree options common = .ok settings)
      (reached : Reached { settings with interrupts } plugins { tree } plugin visited)
      (troublesome : Troublesome { settings with interrupts } visited plugin) :
      NeedsAttention programs interrupts tree (.translate plugins options common)
  /-- No node of the older artifact has the base name of some node of the newer one. -/
  | compared {older newer : Path} {output : Option Path} {common : CommonOptions}
      {config : Config} {old new : JsonObject} {name : String}
      (configured : loadSettings tree common = .ok config)
      (loaded : loadCompared tree older newer = .ok (old, new)) (member : name ∈ new.keys)
      (absent : ∀ known ∈ old.keys, (NameNormalizer.ofConfig config).baseName known ≠
        (NameNormalizer.ofConfig config).baseName name) :
      NeedsAttention programs interrupts tree (.diff older newer output common)
  /-- There is a configuration file already. -/
  | initialized (present : tree.pathExists ⟨ConfigFile.fileName⟩ = true) :
      NeedsAttention programs interrupts tree .init

variable {programs : Programs} {interrupts : Interrupts} {plugins : List Path}
  {common : CommonOptions} {result : CommandResult}

theorem code_runExtract_iff (ended : (runExtract tree plugins common).outcome = .ok result) :
    result.code = 1 ↔ NeedsAttention programs interrupts tree (.extract plugins common) := by
  cases configured : loadSettings tree common with
  | error error => simp [runExtract, configured, CommandRun.failed] at ended
  | ok config =>
    cases succeeded : allOk (extractAll (.ofConfig config) tree plugins).2 with
    | error error => simp [runExtract, configured, succeeded, CommandRun.failed] at ended
    | ok extractions =>
      simp only [runExtract, configured, succeeded, Except.ok.injEq] at ended
      rw [← ended, code_extractResult_iff, exists_isFlawed_extractAll succeeded]
      constructor
      · rintro ⟨before, plugin, after, split, faulty⟩
        exact .extracted configured split faulty
      · intro needs
        cases needs with
        | extracted otherwise split faulty =>
          obtain rfl := Except.ok.inj (configured.symm.trans otherwise)
          exact ⟨_, _, _, split, faulty⟩

theorem code_runTranslate_iff {options : TranslateOptions}
    (ended : (runTranslate programs interrupts tree plugins options common).outcome = .ok result) :
    result.code = 1 ↔
      NeedsAttention programs interrupts tree (.translate plugins options common) := by
  cases settled : translateSettings programs tree options common with
  | error error => simp [runTranslate, settled, CommandRun.failed] at ended
  | ok settings =>
    rcases went : translateAll { settings with interrupts } plugins { tree } with
      ⟨last, error | _⟩
    · simp [runTranslate, settled, went] at ended
    · simp only [runTranslate, settled, went, Except.ok.injEq] at ended
      have clean : ¬TranslateState.IsFlawed { tree } := by simp [TranslateState.IsFlawed]
      rw [← ended, code_ofIssues_iff]
      change last.IsFlawed ↔ _
      rw [isFlawed_translateAll went]
      constructor
      · rintro (flawed | ⟨plugin, visited, reached, troublesome⟩)
        · exact absurd flawed clean
        · exact .translated settled reached troublesome
      · intro needs
        cases needs with
        | translated otherwise reached troublesome =>
          obtain rfl := Except.ok.inj (settled.symm.trans otherwise)
          exact .inr ⟨_, _, reached, troublesome⟩

/-- A comparison lists a name if and only if there is a node whose base name is new. -/
theorem addedNames_pos_iff {normalizer : NameNormalizer} {old new : JsonObject} :
    0 < (NodeDiff.between normalizer old new).addedNames.length ↔
      ∃ name ∈ new.keys, ∀ known ∈ old.keys,
        normalizer.baseName known ≠ normalizer.baseName name := by
  rw [List.length_pos_iff_exists_mem]
  constructor
  · rintro ⟨key, listed⟩
    rcases NodeDiff.mem_keys_addedNormalized.1 listed with ⟨entry, added, -⟩
    rcases NodeDiff.mem_added_iff.1 added with ⟨member, unknown⟩
    refine ⟨entry.1, List.mem_map_of_mem member, ?_⟩
    intro known present same
    exact unknown (List.mem_map.2 ⟨known, present, same⟩)
  · rintro ⟨name, member, absent⟩
    rcases List.mem_map.1 member with ⟨entry, held, rfl⟩
    refine ⟨normalizer.normalize entry.1, NodeDiff.mem_keys_addedNormalized.2 ⟨entry, ?_, rfl⟩⟩
    refine NodeDiff.mem_added_iff.2 ⟨held, ?_⟩
    intro unknown
    rcases List.mem_map.1 unknown with ⟨known, present, same⟩
    exact absent known present same

theorem code_runDiff_iff {older newer : Path} {output : Option Path}
    (ended : (runDiff tree older newer output common).outcome = .ok result) :
    result.code = 1 ↔
      NeedsAttention programs interrupts tree (.diff older newer output common) := by
  cases configured : loadSettings tree common with
  | error error => simp [runDiff, configured, CommandRun.failed] at ended
  | ok config =>
    rcases loaded : loadCompared tree older newer with error | ⟨old, new⟩
    · simp [runDiff, configured, loaded, CommandRun.failed] at ended
    have added : result.code = 1 ↔
        0 < (NodeDiff.between (.ofConfig config) old new).addedNames.length := by
      simp only [runDiff, configured, loaded] at ended
      split at ended
      · simp [CommandRun.failed] at ended
      · rw [← Except.ok.inj ended, code_ofIssues_iff]
        simp
    rw [added, addedNames_pos_iff]
    constructor
    · rintro ⟨name, member, absent⟩
      exact .compared configured loaded member absent
    · intro needs
      cases needs with
      | compared otherwise otherLoaded member absent =>
        obtain rfl := Except.ok.inj (configured.symm.trans otherwise)
        obtain ⟨rfl, rfl⟩ := Prod.mk.inj (Except.ok.inj (loaded.symm.trans otherLoaded))
        exact ⟨_, member, absent⟩

/-- A reconciliation that could run leaves nothing to do, whatever it corrected. -/
theorem code_runReconcile {source translated : Path} {options : ReconcileOptions}
    (ended : (runReconcile tree source translated options common).outcome = .ok result) :
    result.code = 0 := by
  rw [runReconcile] at ended
  split at ended
  · simp [CommandRun.failed] at ended
  split at ended
  · simp [CommandRun.failed] at ended
  dsimp only at ended
  split at ended
  · simp [CommandRun.failed] at ended
  split at ended
  · simp [CommandRun.failed] at ended
  · rw [← Except.ok.inj ended]
    rfl

theorem code_runInit_iff (ended : (runInit tree).outcome = .ok result) :
    result.code = 1 ↔ NeedsAttention programs interrupts tree .init := by
  have present : NeedsAttention programs interrupts tree .init ↔
      tree.pathExists ⟨ConfigFile.fileName⟩ = true := by
    constructor
    · intro needs
      cases needs with
      | initialized present => exact present
    · exact .initialized
  rw [present]
  cases there : tree.pathExists ⟨ConfigFile.fileName⟩ with
  | true =>
    simp only [runInit, there, if_true, Except.ok.injEq] at ended
    simp [← ended, code_ofIssues_iff]
  | false =>
    simp only [runInit, there, Bool.false_eq_true, if_false] at ended
    split at ended
    · rw [← Except.ok.inj ended, code_ofIssues_iff]
      simp
    · simp [CommandRun.failed] at ended

theorem code_iff_of_outcome {command : Command}
    (ended : (runInterrupted programs interrupts tree command).outcome = .ok result) :
    result.code = 1 ↔ NeedsAttention programs interrupts tree command := by
  cases command with
  | extract plugins common => exact code_runExtract_iff ended
  | translate plugins options common => exact code_runTranslate_iff ended
  | reconcile source translated options common =>
    have calm : ¬NeedsAttention programs interrupts tree
        (.reconcile source translated options common) := by
      intro needs
      cases needs
    simp [code_runReconcile ended, calm]
  | diff older newer output common => exact code_runDiff_iff ended
  | init => exact code_runInit_iff ended
  | serve => simp [runInterrupted, CommandRun.failed] at ended

/-- A plugin with one node. -/
def paintedPack : FileTree :=
  .ofTexts [("pack/nodes.py", "class Paint:\n    RETURN_TYPES = (\"IMAGE\",)\n")]

/-- What a command leaves behind if its localizations are interrupted at once. -/
def interrupted (command : Command) : Session :=
  .ofRun false command.verbose
    (runInterrupted noPrograms (fun _ _ _ => true) paintedPack command)

end CommandLine

end NodeLocale
