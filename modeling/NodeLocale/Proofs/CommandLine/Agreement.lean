import NodeLocale.Proofs.Basic
import NodeLocale.Proofs.CommandLine.KeptInputs
import NodeLocale.Proofs.CommandLine.Settings
import NodeLocale.Proofs.Names.AddedNodes
import NodeLocale.Tools.Answer

/-!
# Tools that answer what commands write

Agents reconcile and compare artifacts with the same means as the command line, only that a tool
tells its result where a command saves it. A tool fails where the command cannot load what it works
on, and for the same cause; else its answer holds what the command saves and reports.
-/

namespace NodeLocale

/-! ### Loading -/

/-- Whether an artifact could not be loaded. -/
def ArtifactError.isLoading : ArtifactError → Bool
  | createDirectory .. => false
  | writeFile .. => false
  | readFile .. => true
  | parseJson .. => true
  | notObject .. => true
  | parseNodes .. => true

namespace Artifact

variable {tree after : FileTree} {path : Path} {text : String} {error : ArtifactError}

theorem isLoading_of_loadText (failed : loadText tree path = .error error) :
    error.isLoading = true := by
  rw [loadText] at failed
  split at failed
  · simp at failed
  · rw [← Except.error.inj failed]
    rfl

theorem isLoading_of_loadObject (failed : loadObject tree path = .error error) :
    error.isLoading = true := by
  rw [loadObject, bind_eq_error_iff] at failed
  rcases failed with unread | ⟨text, -, failed⟩
  · exact isLoading_of_loadText unread
  · split at failed
    · rw [← Except.error.inj failed]
      rfl
    · simp [pure, Except.pure] at failed
    · rw [← Except.error.inj failed]
      rfl

theorem isLoading_of_loadNodes (failed : loadNodes tree path = .error error) :
    error.isLoading = true := by
  rw [loadNodes, bind_eq_error_iff] at failed
  rcases failed with unread | ⟨text, -, failed⟩
  · exact isLoading_of_loadText unread
  · split at failed
    · rw [← Except.error.inj failed]
      rfl
    · simp [pure, Except.pure] at failed

theorem not_isLoading_of_saveText (failed : saveText tree path text = (after, .error error)) :
    error.isLoading = false := by
  rw [saveText] at failed
  split at failed
  · rename_i unprepared
    rw [prepareParent] at unprepared
    obtain rfl := Except.error.inj (Prod.mk.inj failed).2
    split at unprepared
    · simp at unprepared
    split at unprepared
    · simp at unprepared
    split at unprepared
    · simp at unprepared
    · rw [← Except.error.inj (Prod.mk.inj unprepared).2]
      rfl
  · split at failed
    · simp at failed
    · rw [← Except.error.inj (Prod.mk.inj failed).2]
      rfl

end Artifact

theorem ReconcileOutcome.isLoading_of_ofFiles {tree : FileTree} {mode : ReconcileMode}
    {source translated : Path} {error : ArtifactError}
    (failed : ofFiles tree mode source translated = .error error) : error.isLoading = true := by
  rw [ofFiles, bind_eq_error_iff] at failed
  rcases failed with unread | ⟨nodes, -, failed⟩
  · exact Artifact.isLoading_of_loadNodes unread
  · cases mode with
    | strict =>
      rcases bind_eq_error_iff.1 failed with unread | ⟨_, -, failed⟩
      · exact Artifact.isLoading_of_loadNodes unread
      · simp [pure, Except.pure] at failed
    | batch | final =>
      rcases bind_eq_error_iff.1 failed with unread | ⟨_, -, failed⟩
      · exact Artifact.isLoading_of_loadObject unread
      · simp [pure, Except.pure] at failed

theorem ReconcileOutcome.isSome_checked_of_ofFiles {tree : FileTree} {mode : ReconcileMode}
    {source translated : Path} {outcome : ReconcileOutcome}
    (loaded : ofFiles tree mode source translated = .ok outcome) :
    outcome.checked.isSome = true ↔ mode = .strict := by
  rw [ofFiles, bind_eq_ok_iff] at loaded
  rcases loaded with ⟨nodes, -, loaded⟩
  cases mode with
  | strict =>
    rcases bind_eq_ok_iff.1 loaded with ⟨other, -, done⟩
    simp [← Except.ok.inj done]
  | batch | final =>
    rcases bind_eq_ok_iff.1 loaded with ⟨candidate, -, done⟩
    simp [← Except.ok.inj done]

namespace CommandLine

open ToolRequest

variable {tree : FileTree} {source translated older newer : Path} {mode : ReconcileMode}
  {output : Option Path} {requested : Bool} {common : CommonOptions}

theorem isLoading_of_loadCompared {error : ArtifactError}
    (failed : loadCompared tree older newer = .error error) : error.isLoading = true := by
  rw [loadCompared, bind_eq_error_iff] at failed
  rcases failed with unread | ⟨old, -, failed⟩
  · exact Artifact.isLoading_of_loadObject unread
  · rcases bind_eq_error_iff.1 failed with unread | ⟨new, -, failed⟩
    · exact Artifact.isLoading_of_loadObject unread
    · simp [pure, Except.pure] at failed

/-- What a tool reports where a command cannot load its configuration or its inputs. -/
def CommandError.onLoading? : CommandError → Option ToolError
  | config error => some (.config error)
  | artifact error => if error.isLoading then some (.artifact error) else none
  | _ => none

/-- Whether a tool fails exactly where a command cannot load what it works on. -/
def FailAlike (told : Except ToolError Json) (ran : CommandRun) : Prop :=
  ∀ failure, told = .error failure ↔
    ∃ error, ran.outcome = .error error ∧ error.onLoading? = some failure

theorem failAlike_of_unconfigured {told : Except ToolError Json} {ran : CommandRun}
    {error : ConfigError} (toolFailed : told = .error (.config error))
    (failed : ran.outcome = .error (.config error)) : FailAlike told ran := by
  intro failure
  rw [toolFailed, failed]
  simp [CommandError.onLoading?]

/-- A tool and a command fail alike if both fail to load the same and else only the command may
fail, in saving. -/
theorem failAlike_of_configured {α : Type} (loading : Except ArtifactError α)
    {told : Except ToolError Json} {ran : CommandRun}
    (unloaded : ∀ error, loading = .error error → error.isLoading = true ∧
      told = .error (.artifact error) ∧ ran.outcome = .error (.artifact error))
    (loaded : ∀ value, loading = .ok value → (∃ json, told = .ok json) ∧
      ((∃ error, ran.outcome = .error (.artifact error) ∧ error.isLoading = false) ∨
        ∃ result, ran.outcome = .ok result)) : FailAlike told ran := by
  intro failure
  cases came : loading with
  | error error =>
    rcases unloaded error came with ⟨isLoading, toolFailed, failed⟩
    rw [toolFailed, failed]
    simp [CommandError.onLoading?, isLoading]
  | ok value =>
    rcases loaded value came with ⟨⟨json, answered⟩, ⟨error, failed, saving⟩ | ⟨result, ended⟩⟩
    · simp [answered, failed, CommandError.onLoading?, saving]
    · simp [answered, ended]

theorem loadSettings_of_unconfigured (common : CommonOptions) {error : ConfigError}
    (failed : ConfigFile.load tree ⟨"."⟩ = .error error) :
    loadSettings tree common = .error (.config error) := by
  rw [loadSettings_eq_map, failed]
  rfl

theorem loadSettings_of_configured (common : CommonOptions) {settings : ConfigFile.Loaded}
    (configured : ConfigFile.load tree ⟨"."⟩ = .ok settings) :
    loadSettings tree common = .ok (common.over settings.config) := by
  rw [loadSettings_eq_map, configured]
  rfl

theorem glossary_over (common : CommonOptions) (config : Config) :
    (common.over config).glossary = config.glossary := by
  rw [CommonOptions.over]
  split <;> rfl

theorem ofConfig_over (common : CommonOptions) (config : Config) :
    NameNormalizer.ofConfig (common.over config) = .ofConfig config := by
  rw [CommonOptions.over]
  split <;> rfl

/-! ### Reconciliations -/

/-- The request for a reconciliation with the configuration of the working directory. The glossary
is asked for or left to the configuration. -/
def reconcileRequest (source translated : Path) (mode : ReconcileMode) (requested : Bool) :
    ToolRequest :=
  .reconcileNodes { source, translated, mode, glossary := if requested then some true else none }

/-- The command for the same reconciliation. -/
def reconcileCommand (source translated : Path) (mode : ReconcileMode) (requested : Bool)
    (output : Option Path) (common : CommonOptions) : Command :=
  .reconcile source translated { mode, output, glossary := requested } common

/-- What a reconciliation gives. -/
structure Reconciliation where
  mode : ReconcileMode
  nodes : Json
  nodeCount : Nat
  issues : CorrectionLog
  /-- The name table and whether keys were restored, after a cross check. -/
  checked : Option (Json × Bool)

namespace Reconciliation

/-- Whether the answer of a tool tells what a reconciliation gives. -/
structure ToldBy (found : Reconciliation) (answer : Json) : Prop where
  mode : answer.member? "mode" = some (.string found.mode.name)
  nodeCount : answer.member? "nodeCount" = some (.ofNat found.nodeCount)
  nodes : answer.member? "nodes" = some found.nodes
  corrections : answer.member? "corrections" = some (.array (found.issues.map correctionItem))
  table : answer.member? "translationTable" = found.checked.map Prod.fst
  correctionsMade : answer.member? "correctionsMade" = found.checked.map fun checked =>
    .bool checked.2

/-- What is saved of a reconciliation. -/
def artifacts (found : Reconciliation) (outputFile : Path) : List (Path × String) :=
  (found.checked.toList.map fun checked =>
    (outputFile.withFileName tableFileName, Artifact.text checked.1)) ++
      [(outputFile, Artifact.text found.nodes)]

/-- Whether a command that could save a reconciliation has left it in its files and reports it. -/
structure Reported (found : Reconciliation) (outputFile : Path) (start after : FileTree)
    (result : CommandResult) : Prop where
  issues : result.issues = found.issues
  summary : result.summary = .reconcile {
    mode := found.mode
    outputFile
    nodeCount := found.nodeCount
    tableFile := found.checked.map fun _ => outputFile.withFileName tableFileName
    correctionsMade := found.checked.map Prod.snd }
  nodes : after.readText outputFile = .ok (Artifact.text found.nodes)
  table : ∀ checked, found.checked = some checked →
    (outputFile.withFileName tableFileName).target start.workingDirectory ≠
      outputFile.target start.workingDirectory →
    after.readText (outputFile.withFileName tableFileName) = .ok (Artifact.text checked.1)

/-- Whether a command does nothing but save a reconciliation and report it. -/
structure LeftBy (found : Reconciliation) (tree : FileTree) (outputFile : Path)
    (ran : CommandRun) : Prop where
  saves : ran.tree = (Artifact.saveAll tree (found.artifacts outputFile)).1
  reported : ∀ result, ran.outcome = .ok result → found.Reported outputFile tree ran.tree result

/-- The reconciliation of loaded artifacts under a configuration. -/
def ofOutcome (mode : ReconcileMode) (config : GlossaryConfig) (requested : Bool)
    (outcome : ReconcileOutcome) : Reconciliation :=
  let result := outcome.resultWith config (requested || config.enabled)
  { mode
    nodes := result.nodes.toJson
    nodeCount := result.nodes.size
    issues := result.log
    checked := outcome.checked.map fun checked => (checked.table.toJson, checked.correctionsMade) }

end Reconciliation

/-- The tool loads and reconciles what the command does, and in the same order. -/
theorem reconcileFiles_eq (tree : FileTree) (request : ReconcileRequest) :
    reconcileFiles tree request =
      (onArtifact (ReconcileOutcome.ofFiles tree request.mode request.source
        request.translated)).map fun outcome => (outcome.result, outcome.checked) := by
  rw [reconcileFiles, ReconcileOutcome.ofFiles]
  cases Artifact.loadNodes tree request.source with
  | error error => rfl
  | ok source =>
    cases request.mode with
    | batch | final => cases Artifact.loadObject tree request.translated <;> rfl
    | strict => cases Artifact.loadNodes tree request.translated <;> rfl

/-- The tool applies the glossary where the command does. -/
theorem underGlossary_eq (config : GlossaryConfig) (outcome : ReconcileOutcome) :
    underGlossary config
        { source, translated, mode, glossary := if requested then some true else none }
        outcome.result = outcome.resultWith config (requested || config.enabled) := by
  cases requested <;> rfl

theorem answer_reconcile_of_unconfigured {error : ConfigError}
    (failed : ConfigFile.load tree ⟨"."⟩ = .error error) :
    answer tree (reconcileRequest source translated mode requested) = .error (.config error) := by
  simp [answer, reconcileRequest, ToolRequest.reconcile, configOrLocal, configOf, failed, bind,
    Except.bind]

theorem answer_reconcile_of_unloaded {loaded : ConfigFile.Loaded} {error : ArtifactError}
    (configured : ConfigFile.load tree ⟨"."⟩ = .ok loaded)
    (failed : ReconcileOutcome.ofFiles tree mode source translated = .error error) :
    answer tree (reconcileRequest source translated mode requested) =
      .error (.artifact error) := by
  simp [answer, reconcileRequest, ToolRequest.reconcile, configOrLocal, configOf, configured,
    reconcileFiles_eq, onArtifact, failed, bind, Except.bind, Except.mapError, Except.map]

theorem toldBy_answer_reconcile (requested : Bool) {loaded : ConfigFile.Loaded}
    {outcome : ReconcileOutcome}
    (configured : ConfigFile.load tree ⟨"."⟩ = .ok loaded)
    (found : ReconcileOutcome.ofFiles tree mode source translated = .ok outcome) :
    ∃ json, answer tree (reconcileRequest source translated mode requested) = .ok json ∧
      (Reconciliation.ofOutcome mode loaded.config.glossary requested outcome).ToldBy json := by
  simp only [answer, reconcileRequest, ToolRequest.reconcile, configOrLocal, configOf, configured,
    reconcileFiles_eq, onArtifact, found, bind, Except.bind, Except.mapError, Except.map,
    underGlossary_eq, Option.getD_none, pure, Except.pure]
  refine ⟨_, rfl, ?_⟩
  cases checked : outcome.checked <;>
    constructor <;>
    simp [Json.member?, Entries.find?, checkedMembers, Reconciliation.ofOutcome, checked]

theorem saveTable_eq_ok {after : FileTree} {file : Path} {checked : Option CrossChecked}
    {tableFile : Option Path} (saved : saveTable tree file checked = (after, .ok tableFile)) :
    tableFile = checked.map (fun _ => file) ∧ after.workingDirectory = tree.workingDirectory ∧
      ∀ found, checked = some found →
        after.look file = .ok (.file (Artifact.text found.table.toJson).toUTF8) := by
  cases checked with
  | none =>
    obtain ⟨rfl, same⟩ := Prod.mk.inj saved
    exact ⟨(Except.ok.inj same).symm, rfl, by simp⟩
  | some found =>
    rcases kept : Artifact.saveText tree file (Artifact.text found.table.toJson) with
      ⟨reached, error | _⟩
    · simp [saveTable, Artifact.saveJson, kept] at saved
    · simp only [saveTable, Artifact.saveJson, kept, Prod.mk.injEq, Except.ok.injEq] at saved
      obtain ⟨rfl, rfl⟩ := saved
      have savedAs := Artifact.savedAs_of_saveText kept
      refine ⟨rfl, savedAs.workingDirectory, ?_⟩
      rintro _ ⟨⟩
      exact savedAs.shown

theorem isLoading_of_saveTable {after : FileTree} {file : Path} {checked : Option CrossChecked}
    {error : ArtifactError} (failed : saveTable tree file checked = (after, .error error)) :
    error.isLoading = false := by
  cases checked with
  | none => simp [saveTable] at failed
  | some found =>
    rcases kept : Artifact.saveText tree file (Artifact.text found.table.toJson) with
      ⟨reached, other | _⟩
    · simp only [saveTable, Artifact.saveJson, kept, Prod.mk.injEq, Except.error.injEq] at failed
      rw [← failed.2]
      exact Artifact.not_isLoading_of_saveText kept
    · simp [saveTable, Artifact.saveJson, kept] at failed

/-- A reconciliation that was loaded is reported, or fails when it is saved. -/
theorem outcome_runReconcile (requested : Bool) (output : Option Path) {config : Config}
    {outcome : ReconcileOutcome}
    (configured : loadSettings tree common = .ok config)
    (loaded : ReconcileOutcome.ofFiles tree mode source translated = .ok outcome) :
    let found := Reconciliation.ofOutcome mode config.glossary requested outcome
    let ran := runReconcile tree source translated { mode, output, glossary := requested } common
    (∃ error, ran.outcome = .error (.artifact error) ∧ error.isLoading = false) ∨
      ∃ result, ran.outcome = .ok result ∧
        found.Reported (output.getD (defaultOutput translated)) tree ran.tree result := by
  intro found ran
  rcases savedTable : saveTable tree
    ((output.getD (defaultOutput translated)).withFileName tableFileName) outcome.checked with
    ⟨between, error | tableFile⟩
  · left
    refine ⟨error, ?_, isLoading_of_saveTable savedTable⟩
    simp [ran, runReconcile, configured, loaded, savedTable, CommandRun.failed]
  rcases saved : Artifact.saveText between (output.getD (defaultOutput translated))
    (Artifact.text found.nodes) with ⟨after, error | _⟩
  · left
    refine ⟨error, ?_, Artifact.not_isLoading_of_saveText saved⟩
    simp only [found, Reconciliation.ofOutcome] at saved
    simp [ran, runReconcile, configured, loaded, savedTable, saved, Artifact.saveJson,
      CommandRun.failed]
  · right
    rcases saveTable_eq_ok savedTable with ⟨rfl, sameStart, tableShown⟩
    have savedAs := Artifact.savedAs_of_saveText saved
    have ended : ran = {
        tree := after
        outcome := .ok (.ofIssues (.reconcile {
          mode
          outputFile := output.getD (defaultOutput translated)
          nodeCount := found.nodeCount
          tableFile := outcome.checked.map fun _ =>
            (output.getD (defaultOutput translated)).withFileName tableFileName
          correctionsMade := outcome.correctionsMade }) found.issues 0 false) } := by
      simp only [found, Reconciliation.ofOutcome] at saved
      simp only [ran, runReconcile, configured, loaded, savedTable, saved, Artifact.saveJson]
      rfl
    rw [ended]
    refine ⟨_, rfl, ?_⟩
    constructor
    · rfl
    · simp only [CommandResult.ofIssues, found, Reconciliation.ofOutcome, Option.map_map]
      rfl
    · exact FileTree.readText_of_look savedAs.shown
    · intro checked isChecked elsewhere
      rcases Option.map_eq_some_iff.1 isChecked with ⟨table, found, rfl⟩
      have shown := tableShown table found
      rw [← sameStart] at elsewhere
      exact FileTree.readText_of_look
        (savedAs.look_of_ne (FileTree.unseparated_of_look shown) elsewhere shown)

theorem leftBy_runReconcile (requested : Bool) (output : Option Path) {config : Config}
    {outcome : ReconcileOutcome}
    (configured : loadSettings tree common = .ok config)
    (loaded : ReconcileOutcome.ofFiles tree mode source translated = .ok outcome) :
    (Reconciliation.ofOutcome mode config.glossary requested outcome).LeftBy tree
      (output.getD (defaultOutput translated))
      (runReconcile tree source translated { mode, output, glossary := requested } common) := by
  constructor
  · rw [tree_runReconcile, reconcileArtifacts]
    simp only [configured, loaded, Reconciliation.artifacts, Reconciliation.ofOutcome]
    cases outcome.checked <;> rfl
  · intro result ended
    rcases outcome_runReconcile requested output configured loaded with
      ⟨error, failed, -⟩ | ⟨other, succeeded, reported⟩
    · simp [failed] at ended
    · rw [succeeded, Except.ok.injEq] at ended
      exact ended ▸ reported

theorem failAlike_reconcile : FailAlike
    (answer tree (reconcileRequest source translated mode requested))
    (runReconcile tree source translated { mode, output, glossary := requested } common) := by
  cases configured : ConfigFile.load tree ⟨"."⟩ with
  | error error =>
    have unsettled := loadSettings_of_unconfigured common configured
    apply failAlike_of_unconfigured (answer_reconcile_of_unconfigured configured)
    simp [runReconcile, unsettled, CommandRun.failed]
  | ok settings =>
    have settled := loadSettings_of_configured common configured
    apply failAlike_of_configured (ReconcileOutcome.ofFiles tree mode source translated)
    · intro error failed
      refine ⟨ReconcileOutcome.isLoading_of_ofFiles failed,
        answer_reconcile_of_unloaded configured failed, ?_⟩
      simp [runReconcile, settled, failed, CommandRun.failed]
    · intro outcome loaded
      rcases toldBy_answer_reconcile requested configured loaded with
        ⟨json, told, -⟩
      refine ⟨⟨json, told⟩, ?_⟩
      exact (outcome_runReconcile requested output settled loaded).imp_right
        fun reported => reported.imp fun _ both => both.1

/-- A tool and a command come to the same reconciliation. -/
theorem exists_reconciliation {json : Json}
    (told : answer tree (reconcileRequest source translated mode requested) = .ok json) :
    ∃ found : Reconciliation, found.ToldBy json ∧ found.mode = mode ∧
      (found.checked.isSome = true ↔ mode = .strict) ∧
      found.LeftBy tree (output.getD (defaultOutput translated))
        (runReconcile tree source translated { mode, output, glossary := requested } common) := by
  cases configured : ConfigFile.load tree ⟨"."⟩ with
  | error error => simp [answer_reconcile_of_unconfigured configured] at told
  | ok settings =>
    have settled := loadSettings_of_configured common configured
    cases loaded : ReconcileOutcome.ofFiles tree mode source translated with
    | error error => simp [answer_reconcile_of_unloaded configured loaded] at told
    | ok outcome =>
      rcases toldBy_answer_reconcile requested configured loaded with
        ⟨other, answered, toldBy⟩
      obtain rfl : other = json := Except.ok.inj (answered.symm.trans told)
      have left := leftBy_runReconcile requested output settled loaded
      rw [glossary_over] at left
      refine ⟨_, toldBy, rfl, ?_, left⟩
      rw [← ReconcileOutcome.isSome_checked_of_ofFiles loaded, Reconciliation.ofOutcome,
        Option.isSome_map]

/-! ### Comparisons -/

/-- The request for a comparison with the configuration of the working directory. -/
def diffRequest (older newer : Path) : ToolRequest := .diffNodes { older, newer }

/-- What a comparison gives. -/
structure Comparison where
  oldCount : Nat
  newCount : Nat
  /-- The added nodes under their normal names. -/
  added : JsonObject

namespace Comparison

/-- Whether the answer of a tool tells what a comparison gives. -/
structure ToldBy (found : Comparison) (answer : Json) : Prop where
  oldCount : answer.member? "oldCount" = some (.ofNat found.oldCount)
  newCount : answer.member? "newCount" = some (.ofNat found.newCount)
  addedCount : answer.member? "addedCount" = some (.ofNat found.added.size)
  added : answer.member? "added" = some (.ofMap found.added)

/-- Whether a command that could save a comparison has left it in its file, if anything was added,
and reports it. -/
structure Reported (found : Comparison) (file : Path) (after : FileTree) (result : CommandResult) :
    Prop where
  summary : result.summary = .diff {
    oldCount := found.oldCount
    newCount := found.newCount
    added := found.added.keys
    outputFile := if found.added.isEmpty then none else some file }
  added : found.added.isEmpty = false →
    after.readText file = .ok (Artifact.text (.ofMap found.added))

/-- Whether a command does nothing but save a comparison and report it. Where nothing was added
there is no file. -/
structure LeftBy (found : Comparison) (tree : FileTree) (file : Path) (ran : CommandRun) :
    Prop where
  saves : ran.tree = (Artifact.saveAll tree
    (if found.added.isEmpty then [] else [(file, Artifact.text (.ofMap found.added))])).1
  reported : ∀ result, ran.outcome = .ok result → found.Reported file ran.tree result

/-- The comparison of loaded artifacts. -/
def ofLoaded (normalizer : NameNormalizer) (compared : JsonObject × JsonObject) : Comparison where
  oldCount := compared.1.size
  newCount := compared.2.size
  added := (NodeDiff.between normalizer compared.1 compared.2).addedNormalized

end Comparison

theorem isEmpty_addedNormalized (normalizer : NameNormalizer) (old new : JsonObject) :
    (NodeDiff.between normalizer old new).addedNormalized.isEmpty =
      (NodeDiff.between normalizer old new).isEmpty := by
  have noKeys (map : JsonObject) : map.isEmpty = true ↔ ∀ key, key ∉ map.keys := by
    rw [← List.eq_nil_iff_forall_not_mem, OrderedMap.isEmpty, List.isEmpty_iff, OrderedMap.keys,
      List.map_eq_nil_iff]
  rw [Bool.eq_iff_iff, NodeDiff.isEmpty, noKeys, OrderedMap.isEmpty, List.isEmpty_iff,
    List.eq_nil_iff_forall_not_mem]
  constructor
  · intro none entry member
    exact none _ (NodeDiff.mem_keys_addedNormalized.2 ⟨entry, member, rfl⟩)
  · intro none key member
    rcases NodeDiff.mem_keys_addedNormalized.1 member with ⟨entry, added, -⟩
    exact none entry added

theorem answer_diff_of_unconfigured {error : ConfigError}
    (failed : ConfigFile.load tree ⟨"."⟩ = .error error) :
    answer tree (diffRequest older newer) = .error (.config error) := by
  simp [answer, diffRequest, ToolRequest.diff, configOrLocal, configOf, failed, bind, Except.bind]

theorem answer_diff_of_unloaded {settings : ConfigFile.Loaded} {error : ArtifactError}
    (configured : ConfigFile.load tree ⟨"."⟩ = .ok settings)
    (failed : loadCompared tree older newer = .error error) :
    answer tree (diffRequest older newer) = .error (.artifact error) := by
  rw [loadCompared] at failed
  simp only [answer, diffRequest, ToolRequest.diff, configOrLocal, configOf, Option.getD_none,
    configured, onArtifact]
  cases old : Artifact.loadObject tree older with
  | error other =>
    rw [old] at failed
    rw [← Except.error.inj failed]
    rfl
  | ok nodes =>
    rw [old] at failed
    cases new : Artifact.loadObject tree newer with
    | error other =>
      rw [new] at failed
      rw [← Except.error.inj failed]
      rfl
    | ok others => simp [new, bind, Except.bind, pure, Except.pure] at failed

theorem toldBy_answer_diff {settings : ConfigFile.Loaded} {compared : JsonObject × JsonObject}
    (configured : ConfigFile.load tree ⟨"."⟩ = .ok settings)
    (loaded : loadCompared tree older newer = .ok compared) :
    ∃ json, answer tree (diffRequest older newer) = .ok json ∧
      (Comparison.ofLoaded (.ofConfig settings.config) compared).ToldBy json := by
  rw [loadCompared] at loaded
  rcases bind_eq_ok_iff.1 loaded with ⟨old, oldLoaded, rest⟩
  rcases bind_eq_ok_iff.1 rest with ⟨new, newLoaded, done⟩
  obtain rfl : (old, new) = compared := Except.ok.inj done
  simp only [answer, diffRequest, ToolRequest.diff, configOrLocal, configOf, Option.getD_none,
    configured, onArtifact, oldLoaded, newLoaded, bind, Except.bind, Except.mapError, pure,
    Except.pure]
  refine ⟨_, rfl, ?_⟩
  constructor <;> simp [Json.member?, Entries.find?, Comparison.ofLoaded]

/-- A comparison that was loaded is reported, or fails when it is saved. -/
theorem outcome_runDiff (output : Option Path) {config : Config}
    {compared : JsonObject × JsonObject}
    (configured : loadSettings tree common = .ok config)
    (loaded : loadCompared tree older newer = .ok compared) :
    let ran := runDiff tree older newer output common
    (∃ error, ran.outcome = .error (.artifact error) ∧ error.isLoading = false) ∨
      ∃ result, ran.outcome = .ok result ∧
        (Comparison.ofLoaded (.ofConfig config) compared).Reported
          ((output.getD (newer.parent?.getD ⟨""⟩)).child addedFileName) ran.tree result := by
  intro ran
  have empty := isEmpty_addedNormalized (.ofConfig config) compared.1 compared.2
  by_cases nothing : (NodeDiff.between (.ofConfig config) compared.1 compared.2).isEmpty = true
  · right
    have ended : ran = {
        tree
        outcome := .ok (.ofIssues (.diff ⟨compared.1.size, compared.2.size,
          (NodeDiff.between (.ofConfig config) compared.1 compared.2).addedNames, none⟩) []
          (NodeDiff.between (.ofConfig config) compared.1
            compared.2).addedNames.length true) } := by
      simp [ran, runDiff, configured, loaded, saveAdded, nothing]
    rw [ended]
    refine ⟨_, rfl, ?_⟩
    rw [nothing] at empty
    constructor
    · simp [CommandResult.ofIssues, Comparison.ofLoaded, NodeDiff.addedNames, empty]
    · simp [Comparison.ofLoaded, empty]
  · rcases saved : Artifact.saveText tree
      ((output.getD (newer.parent?.getD ⟨""⟩)).child addedFileName)
      (Artifact.text (.ofMap
        (NodeDiff.between (.ofConfig config) compared.1 compared.2).addedNormalized)) with
      ⟨after, error | _⟩
    · left
      refine ⟨error, ?_, Artifact.not_isLoading_of_saveText saved⟩
      simp [ran, runDiff, configured, loaded, saveAdded, nothing, Artifact.saveJson, saved,
        CommandRun.failed]
    · right
      have ended : ran = {
          tree := after
          outcome := .ok (.ofIssues (.diff ⟨compared.1.size, compared.2.size,
            (NodeDiff.between (.ofConfig config) compared.1 compared.2).addedNames,
            some ((output.getD (newer.parent?.getD ⟨""⟩)).child addedFileName)⟩) []
            (NodeDiff.between (.ofConfig config) compared.1
              compared.2).addedNames.length true) } := by
        simp [ran, runDiff, configured, loaded, saveAdded, nothing, Artifact.saveJson, saved]
      rw [ended]
      refine ⟨_, rfl, ?_⟩
      rw [Bool.not_eq_true] at nothing
      rw [nothing] at empty
      constructor
      · simp [CommandResult.ofIssues, Comparison.ofLoaded, NodeDiff.addedNames, empty]
      · intro _
        exact FileTree.readText_of_look (Artifact.savedAs_of_saveText saved).shown

theorem leftBy_runDiff (output : Option Path) {config : Config} {compared : JsonObject × JsonObject}
    (configured : loadSettings tree common = .ok config)
    (loaded : loadCompared tree older newer = .ok compared) :
    (Comparison.ofLoaded (.ofConfig config) compared).LeftBy tree
      ((output.getD (newer.parent?.getD ⟨""⟩)).child addedFileName)
      (runDiff tree older newer output common) := by
  constructor
  · rw [tree_runDiff, diffArtifacts]
    simp only [configured, loaded, Comparison.ofLoaded, isEmpty_addedNormalized]
  · intro result ended
    rcases outcome_runDiff output configured loaded with
      ⟨error, failed, -⟩ | ⟨other, succeeded, reported⟩
    · simp [failed] at ended
    · rw [succeeded, Except.ok.injEq] at ended
      exact ended ▸ reported

theorem failAlike_diff : FailAlike (answer tree (diffRequest older newer))
    (runDiff tree older newer output common) := by
  cases configured : ConfigFile.load tree ⟨"."⟩ with
  | error error =>
    have unsettled := loadSettings_of_unconfigured common configured
    apply failAlike_of_unconfigured (answer_diff_of_unconfigured configured)
    simp [runDiff, unsettled, CommandRun.failed]
  | ok settings =>
    have settled := loadSettings_of_configured common configured
    apply failAlike_of_configured (loadCompared tree older newer)
    · intro error failed
      refine ⟨isLoading_of_loadCompared failed, answer_diff_of_unloaded configured failed, ?_⟩
      simp [runDiff, settled, failed, CommandRun.failed]
    · intro compared loaded
      rcases toldBy_answer_diff configured loaded with ⟨json, told, -⟩
      refine ⟨⟨json, told⟩, ?_⟩
      exact (outcome_runDiff output settled loaded).imp_right
        fun reported => reported.imp fun _ both => both.1

/-- A tool and a command come to the same comparison. -/
theorem exists_comparison {json : Json} (told : answer tree (diffRequest older newer) = .ok json) :
    ∃ found : Comparison, found.ToldBy json ∧
      found.LeftBy tree ((output.getD (newer.parent?.getD ⟨""⟩)).child addedFileName)
        (runDiff tree older newer output common) := by
  cases configured : ConfigFile.load tree ⟨"."⟩ with
  | error error => simp [answer_diff_of_unconfigured configured] at told
  | ok settings =>
    have settled := loadSettings_of_configured common configured
    cases loaded : loadCompared tree older newer with
    | error error => simp [answer_diff_of_unloaded configured loaded] at told
    | ok compared =>
      rcases toldBy_answer_diff configured loaded with ⟨other, answered, toldBy⟩
      obtain rfl : other = json := Except.ok.inj (answered.symm.trans told)
      have left := leftBy_runDiff output settled loaded
      rw [ofConfig_over] at left
      exact ⟨_, toldBy, left⟩

/-- Reconciling and comparing artifacts with the configuration of the working directory, a tool
fails where the command cannot load what it works on, for the same cause. Else the command saves
what the tool tells, and reports the same issues in the same order; where nothing was added it
saves no file. -/
theorem tools_agree (programs : Programs) (tree : FileTree) :
    (∀ (source translated : Path) (mode : ReconcileMode) (requested : Bool) (output : Option Path)
        (common : CommonOptions),
      let told := answer tree (reconcileRequest source translated mode requested)
      let ran := run programs tree
        (reconcileCommand source translated mode requested output common)
      FailAlike told ran ∧ ∀ json, told = .ok json → ∃ found : Reconciliation,
        found.ToldBy json ∧ found.mode = mode ∧
          (found.checked.isSome = true ↔ mode = .strict) ∧
          found.LeftBy tree (output.getD (defaultOutput translated)) ran) ∧
    ∀ (older newer : Path) (output : Option Path) (common : CommonOptions),
      let told := answer tree (diffRequest older newer)
      let ran := run programs tree (.diff older newer output common)
      FailAlike told ran ∧ ∀ json, told = .ok json → ∃ found : Comparison,
        found.ToldBy json ∧
          found.LeftBy tree ((output.getD (newer.parent?.getD ⟨""⟩)).child addedFileName) ran :=
  ⟨fun _ _ _ _ _ _ => ⟨failAlike_reconcile, fun _ told => exists_reconciliation told⟩,
    fun _ _ _ _ => ⟨failAlike_diff, fun _ told => exists_comparison told⟩⟩

/-- An artifact, and a translated one in which a key was translated as well. -/
def translatedArtifacts : FileTree :=
  .ofTexts [("en.json", "\x7b\"Blur\": \x7b\"title\": \"Blur\", \"inputs\": \x7b\"image\": " ++
      "\"image\"\x7d, \"widgets\": \x7b\x7d, \"outputs\": \x7b\x7d\x7d\x7d"),
    ("zh.json", "\x7b\"Blur\": \x7b\"title\": \"模糊\", \"inputs\": \x7b\"图像\": " ++
      "\"图像\"\x7d, \"widgets\": \x7b\x7d, \"outputs\": \x7b\x7d\x7d\x7d")]

/-- There are no other programs. -/
def noPrograms : Programs := fun tree _ => (tree, .error .notFound)

set_option maxRecDepth 100000 in
/-- Both tools have something to tell about the two artifacts. -/
theorem tools_agree_of_translatedArtifacts :
    (∃ json, ∃ found : Reconciliation,
      answer translatedArtifacts (reconcileRequest ⟨"en.json"⟩ ⟨"zh.json"⟩ .strict false) =
          .ok json ∧ found.ToldBy json ∧ found.checked.isSome = true ∧
        found.LeftBy translatedArtifacts ⟨"zh_reconciled.json"⟩
          (run noPrograms translatedArtifacts
            (reconcileCommand ⟨"en.json"⟩ ⟨"zh.json"⟩ .strict false none {}))) ∧
    ∃ json, ∃ found : Comparison,
      answer translatedArtifacts (diffRequest ⟨"en.json"⟩ ⟨"zh.json"⟩) = .ok json ∧
        found.ToldBy json ∧
        found.LeftBy translatedArtifacts ⟨"added_nodes.json"⟩
          (run noPrograms translatedArtifacts (.diff ⟨"en.json"⟩ ⟨"zh.json"⟩ none {})) := by
  have agree := tools_agree noPrograms translatedArtifacts
  refine ⟨?_, ?_⟩
  · have answered : ∃ json, answer translatedArtifacts
        (reconcileRequest ⟨"en.json"⟩ ⟨"zh.json"⟩ .strict false) = .ok json :=
      exists_eq_ok (by decide +kernel)
    rcases answered with ⟨json, told⟩
    rcases (agree.1 ⟨"en.json"⟩ ⟨"zh.json"⟩ .strict false none {}).2 json told with
      ⟨found, toldBy, -, checked, left⟩
    have output : defaultOutput ⟨"zh.json"⟩ = ⟨"zh_reconciled.json"⟩ := by decide
    rw [Option.getD_none, output] at left
    exact ⟨json, found, told, toldBy, checked.2 rfl, left⟩
  · have answered : ∃ json, answer translatedArtifacts
        (diffRequest ⟨"en.json"⟩ ⟨"zh.json"⟩) = .ok json := exists_eq_ok (by decide +kernel)
    rcases answered with ⟨json, told⟩
    rcases (agree.2 ⟨"en.json"⟩ ⟨"zh.json"⟩ none {}).2 json told with ⟨found, toldBy, left⟩
    have file : ((none : Option Path).getD ((Path.mk "zh.json").parent?.getD ⟨""⟩)).child
        addedFileName = ⟨"added_nodes.json"⟩ := by decide
    rw [file] at left
    exact ⟨json, found, told, toldBy, left⟩

end CommandLine

end NodeLocale
