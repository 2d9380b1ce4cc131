import NodeLocale.CommandLine.Execution
import NodeLocale.FileTree.Changes
import NodeLocale.Proofs.Files.FileNames
import NodeLocale.Proofs.Files.KeptPlaces
import NodeLocale.Proofs.Occurrences

/-!
# Inputs that stay

A reconciliation and a comparison read two artifacts and save what they find beside the second one,
under names of their own choice. Once both artifacts are loaded they are not looked at again, so an
input stays as it is unless something is saved at its place, and then it holds what is saved there
last.
-/

namespace NodeLocale

open FileTree

/-! ### Saving several artifacts -/

namespace Artifact

variable {tree after : FileTree} {path input : Path} {text : String} {content : ByteArray}

/-- Saves artifacts one after another up to the first that cannot be saved, and tells which were. -/
def saveAll (tree : FileTree) : List (Path × String) → FileTree × List (Path × String)
  | [] => (tree, [])
  | artifact :: rest =>
    match saveText tree artifact.1 artifact.2 with
    | (after, .error _) => (after, [])
    | (after, .ok ()) => ((saveAll after rest).1, artifact :: (saveAll after rest).2)

theorem saveAll_subset (tree : FileTree) (artifacts : List (Path × String)) :
    (saveAll tree artifacts).2 ⊆ artifacts := by
  induction artifacts generalizing tree with
  | nil => exact List.Subset.refl _
  | cons artifact rest ih =>
    rw [saveAll]
    split
    · exact List.nil_subset _
    · exact List.cons_subset_cons _ (ih _)

/-- Whether a file is to be saved at the place of an input. -/
def Meets (tree : FileTree) (input : Path) (artifact : Path × String) : Prop :=
  artifact.1.target tree.workingDirectory = input.target tree.workingDirectory

/-- A path that leads where a file was saved shows that file. -/
theorem look_of_meets (saved : saveText tree path text = (after, .ok ()))
    (shown : tree.look input = .ok (.file content)) (meets : Meets tree input (path, text)) :
    after.look input = .ok (.file text.toUTF8) := by
  have unseparated := unseparated_of_look shown
  have savedAs := savedAs_of_saveText saved
  rcases (look_eq_file_iff unseparated).1 shown with ⟨place, reached, -⟩
  rcases (look_eq_file_iff (unseparated_of_look savedAs.shown)).1 savedAs.shown with
    ⟨other, otherReached, standing⟩
  have same : other = place := by
    rw [resolve_eq_ok otherReached, savedAs.workingDirectory, resolve_eq_ok reached]
    exact meets
  apply (look_eq_file_iff unseparated).2
  exact ⟨place, resolve_of_directoriesStand savedAs.directoriesStand reached, same ▸ standing⟩

/-- An input shows what was saved last at its place, or else what it held. -/
theorem look_saveAll (shown : tree.look input = .ok (.file content))
    (artifacts : List (Path × String)) :
    (∃ artifact, IsLast (Meets tree input) artifact (saveAll tree artifacts).2 ∧
        (saveAll tree artifacts).1.look input = .ok (.file artifact.2.toUTF8)) ∨
      (∀ artifact ∈ (saveAll tree artifacts).2, ¬Meets tree input artifact) ∧
        (saveAll tree artifacts).1.look input = .ok (.file content) := by
  induction artifacts generalizing tree content with
  | nil =>
    right
    exact ⟨fun _ member => absurd member List.not_mem_nil, shown⟩
  | cons artifact rest ih =>
    rcases saved : saveText tree artifact.1 artifact.2 with ⟨after, error | _⟩
    · right
      simp only [saveAll, saved]
      exact ⟨fun _ member => absurd member List.not_mem_nil,
        (grown_of_saveText_eq_error saved).look shown⟩
    · have savedAs := savedAs_of_saveText saved
      have sameMeets : Meets after input = Meets tree input := by
        funext other
        rw [Meets, Meets, savedAs.workingDirectory]
      simp only [saveAll, saved]
      -- What is saved later at the place of the input takes the place of this artifact as well.
      by_cases meets : Meets tree input artifact
      · rcases ih (look_of_meets saved shown meets) with ⟨later, isLast, laterShown⟩ | ⟨none, still⟩
        · rw [sameMeets] at isLast
          exact .inl ⟨later, isLast.cons artifact, laterShown⟩
        · rw [sameMeets] at none
          exact .inl ⟨artifact, .head meets none, still⟩
      · have unseparated := unseparated_of_look shown
        rcases ih (savedAs.look_of_ne unseparated (Ne.symm meets) shown) with
          ⟨later, isLast, laterShown⟩ | ⟨none, still⟩
        · rw [sameMeets] at isLast
          exact .inl ⟨later, isLast.cons artifact, laterShown⟩
        · rw [sameMeets] at none
          exact .inr ⟨List.forall_mem_cons.2 ⟨meets, none⟩, still⟩

/-- An input stays as it is if and only if what is saved last at its place is what it held. -/
theorem readBytes_saveAll_iff (shown : tree.look input = .ok (.file content))
    (artifacts : List (Path × String)) :
    (saveAll tree artifacts).1.readBytes input = tree.readBytes input ↔
      ∀ artifact, IsLast (Meets tree input) artifact (saveAll tree artifacts).2 →
        tree.readBytes input = .ok artifact.2.toUTF8 := by
  rw [readBytes_of_look shown]
  rcases look_saveAll shown artifacts with ⟨artifact, isLast, after⟩ | ⟨none, after⟩
  · rw [readBytes_of_look after]
    constructor
    · intro same other otherLast
      rw [otherLast.unique isLast, same]
    · intro same
      exact (same artifact isLast).symm
  · rw [readBytes_of_look after]
    simp only [true_iff]
    intro artifact isLast
    exact absurd isLast.holds (none artifact isLast.mem)

end Artifact

namespace CommandLine

/-- The artifacts that a command reads. -/
def Command.inputs : Command → List Path
  | reconcile source translated _ _ => [source, translated]
  | diff older newer _ _ => [older, newer]
  | _ => []

/-- What a reconciliation saves. -/
def reconcileArtifacts (tree : FileTree) (source translated : Path) (options : ReconcileOptions)
    (common : CommonOptions) : List (Path × String) :=
  match loadSettings tree common, ReconcileOutcome.ofFiles tree options.mode source translated with
  | .ok config, .ok outcome =>
    let outputFile := options.output.getD (defaultOutput translated)
    let result := outcome.resultWith config.glossary (options.glossary || config.glossary.enabled)
    outcome.checked.toList.map (fun checked =>
      (outputFile.withFileName tableFileName, Artifact.text checked.table.toJson)) ++
        [(outputFile, Artifact.text result.nodes.toJson)]
  | _, _ => []

/-- What a comparison saves. -/
def diffArtifacts (tree : FileTree) (older newer : Path) (output : Option Path)
    (common : CommonOptions) : List (Path × String) :=
  match loadSettings tree common, loadCompared tree older newer with
  | .ok config, .ok (old, new) =>
    let added := NodeDiff.between (.ofConfig config) old new
    if added.isEmpty then []
    else
      [((output.getD (newer.parent?.getD ⟨""⟩)).child addedFileName,
        Artifact.text (.ofMap added.addedNormalized))]
  | _, _ => []

/-- What a command on artifacts saves if nothing fails. -/
def Command.artifacts (tree : FileTree) : Command → List (Path × String)
  | reconcile source translated options common =>
    reconcileArtifacts tree source translated options common
  | diff older newer output common => diffArtifacts tree older newer output common
  | _ => []

theorem tree_runReconcile (tree : FileTree) (source translated : Path)
    (options : ReconcileOptions) (common : CommonOptions) :
    (runReconcile tree source translated options common).tree =
      (Artifact.saveAll tree (reconcileArtifacts tree source translated options common)).1 := by
  rw [runReconcile, reconcileArtifacts]
  cases loadSettings tree common with
  | error error => rfl
  | ok config =>
    cases ReconcileOutcome.ofFiles tree options.mode source translated with
    | error error => rfl
    | ok outcome =>
      simp only [Artifact.saveJson, CommandRun.failed]
      cases checked : outcome.checked with
      | none =>
        rcases saved : Artifact.saveText tree (options.output.getD (defaultOutput translated))
          (Artifact.text (outcome.resultWith config.glossary
            (options.glossary || config.glossary.enabled)).nodes.toJson) with ⟨after, error | _⟩ <;>
          simp [saveTable, Artifact.saveAll, saved]
      | some table =>
        rcases savedTable : Artifact.saveText tree
          ((options.output.getD (defaultOutput translated)).withFileName tableFileName)
          (Artifact.text table.table.toJson) with ⟨between, error | _⟩
        · simp [saveTable, Artifact.saveJson, Artifact.saveAll, savedTable]
        · rcases saved : Artifact.saveText between (options.output.getD (defaultOutput translated))
            (Artifact.text (outcome.resultWith config.glossary
              (options.glossary || config.glossary.enabled)).nodes.toJson) with
            ⟨after, error | _⟩ <;>
            simp [saveTable, Artifact.saveJson, Artifact.saveAll, savedTable, saved]

theorem tree_runDiff (tree : FileTree) (older newer : Path) (output : Option Path)
    (common : CommonOptions) :
    (runDiff tree older newer output common).tree =
      (Artifact.saveAll tree (diffArtifacts tree older newer output common)).1 := by
  rw [runDiff, diffArtifacts]
  cases loadSettings tree common with
  | error error => rfl
  | ok config =>
    cases loadCompared tree older newer with
    | error error => rfl
    | ok compared =>
      simp only [saveAdded, Artifact.saveJson, CommandRun.failed]
      by_cases nothing : (NodeDiff.between (.ofConfig config) compared.1 compared.2).isEmpty
      · simp [nothing, Artifact.saveAll]
      · rcases saved : Artifact.saveText tree
          ((output.getD (newer.parent?.getD ⟨""⟩)).child addedFileName)
          (Artifact.text (.ofMap
            (NodeDiff.between (.ofConfig config) compared.1 compared.2).addedNormalized)) with
          ⟨after, error | _⟩ <;>
          simp [nothing, Artifact.saveAll, saved]

/-! ### Inputs and outputs -/

/-- The files that a command may save, whether they are given or not. -/
def Command.outputFiles : Command → List Path
  | reconcile _ translated options _ =>
    let outputFile := options.output.getD (defaultOutput translated)
    if options.mode = .strict then [outputFile.withFileName tableFileName, outputFile]
    else [outputFile]
  | diff _ newer output _ => [(output.getD (newer.parent?.getD ⟨""⟩)).child addedFileName]
  | _ => []

/-- The artifacts that a command gets to save. -/
def Command.saved (tree : FileTree) (command : Command) : List (Path × String) :=
  (Artifact.saveAll tree (command.artifacts tree)).2

variable {tree : FileTree} {path source translated older newer : Path}

theorem look_of_loadText {text : String} (loaded : Artifact.loadText tree path = .ok text) :
    ∃ content, tree.look path = .ok (.file content) := by
  rw [Artifact.loadText] at loaded
  split at loaded
  · rename_i read
    exact isFile_iff.1 (isFile_of_readText read)
  · simp at loaded

theorem look_of_loadObject {object : JsonObject}
    (loaded : Artifact.loadObject tree path = .ok object) :
    ∃ content, tree.look path = .ok (.file content) := by
  cases read : Artifact.loadText tree path with
  | error error => simp [Artifact.loadObject, read, bind, Except.bind] at loaded
  | ok text => exact look_of_loadText read

theorem look_of_loadNodes {nodes : NodeMap} (loaded : Artifact.loadNodes tree path = .ok nodes) :
    ∃ content, tree.look path = .ok (.file content) := by
  cases read : Artifact.loadText tree path with
  | error error => simp [Artifact.loadNodes, read, bind, Except.bind] at loaded
  | ok text => exact look_of_loadText read

theorem ofFiles_eq_ok {mode : ReconcileMode} {outcome : ReconcileOutcome}
    (loaded : ReconcileOutcome.ofFiles tree mode source translated = .ok outcome) :
    (∃ content, tree.look source = .ok (.file content)) ∧
      (∃ content, tree.look translated = .ok (.file content)) ∧
        (outcome.checked ≠ none → mode = .strict) := by
  cases sourceLoaded : Artifact.loadNodes tree source with
  | error error => simp [ReconcileOutcome.ofFiles, sourceLoaded, bind, Except.bind] at loaded
  | ok nodes =>
    refine ⟨look_of_loadNodes sourceLoaded, ?_⟩
    cases mode with
    | strict =>
      cases translatedLoaded : Artifact.loadNodes tree translated with
      | error error =>
        simp [ReconcileOutcome.ofFiles, sourceLoaded, translatedLoaded, bind, Except.bind] at loaded
      | ok other => exact ⟨look_of_loadNodes translatedLoaded, fun _ => rfl⟩
    | batch | final =>
      cases translatedLoaded : Artifact.loadObject tree translated with
      | error error =>
        simp [ReconcileOutcome.ofFiles, sourceLoaded, translatedLoaded, bind, Except.bind] at loaded
      | ok other =>
        refine ⟨look_of_loadObject translatedLoaded, ?_⟩
        simp only [ReconcileOutcome.ofFiles, sourceLoaded, translatedLoaded, bind, Except.bind,
          pure, Except.pure, Except.ok.injEq] at loaded
        rw [← loaded]
        exact fun checked => absurd rfl checked

theorem loadCompared_eq_ok {compared : JsonObject × JsonObject}
    (loaded : loadCompared tree older newer = .ok compared) :
    (∃ content, tree.look older = .ok (.file content)) ∧
      ∃ content, tree.look newer = .ok (.file content) := by
  cases olderLoaded : Artifact.loadObject tree older with
  | error error => simp [loadCompared, olderLoaded, bind, Except.bind] at loaded
  | ok old =>
    cases newerLoaded : Artifact.loadObject tree newer with
    | error error => simp [loadCompared, olderLoaded, newerLoaded, bind, Except.bind] at loaded
    | ok new => exact ⟨look_of_loadObject olderLoaded, look_of_loadObject newerLoaded⟩

/-- Nothing is saved before all inputs are read. -/
theorem look_of_mem_artifacts {command : Command} {artifact : Path × String}
    (member : artifact ∈ command.artifacts tree) :
    (∀ input ∈ command.inputs, ∃ content, tree.look input = .ok (.file content)) ∧
      artifact.1 ∈ command.outputFiles := by
  cases command with
  | reconcile source translated options common =>
    rw [Command.artifacts, reconcileArtifacts] at member
    split at member
    · rename_i config outcome _ loaded
      rcases ofFiles_eq_ok loaded with ⟨sourceShown, translatedShown, onlyStrict⟩
      refine ⟨?_, ?_⟩
      · simp only [Command.inputs, List.mem_cons, List.not_mem_nil, or_false]
        rintro input (rfl | rfl)
        · exact sourceShown
        · exact translatedShown
      · rw [Command.outputFiles]
        rcases List.mem_append.1 member with table | result
        · rcases List.mem_map.1 table with ⟨checked, found, rfl⟩
          have strict := onlyStrict (by simp [Option.mem_toList.1 found])
          simp [strict]
        · rw [List.mem_singleton.1 result]
          split <;> simp
    · simp at member
  | diff older newer output common =>
    rw [Command.artifacts, diffArtifacts] at member
    split at member
    · rename_i config old new _ loaded
      rcases loadCompared_eq_ok loaded with ⟨olderShown, newerShown⟩
      refine ⟨?_, ?_⟩
      · simp only [Command.inputs, List.mem_cons, List.not_mem_nil, or_false]
        rintro input (rfl | rfl)
        · exact olderShown
        · exact newerShown
      · dsimp only at member
        split at member
        · simp at member
        · rw [List.mem_singleton.1 member]
          simp [Command.outputFiles]
    · simp at member
  | extract plugins common => simp [Command.artifacts] at member
  | translate plugins options common => simp [Command.artifacts] at member
  | init => simp [Command.artifacts] at member
  | serve => simp [Command.artifacts] at member

theorem tree_run (programs : Programs) {command : Command} {input : Path}
    (member : input ∈ command.inputs) :
    (run programs tree command).tree = (Artifact.saveAll tree (command.artifacts tree)).1 := by
  cases command with
  | reconcile source translated options common => exact tree_runReconcile ..
  | diff older newer output common => exact tree_runDiff ..
  | extract plugins common => simp [Command.inputs] at member
  | translate plugins options common => simp [Command.inputs] at member
  | init => simp [Command.inputs] at member
  | serve => simp [Command.inputs] at member

theorem input_kept_iff (programs : Programs) {command : Command} {input : Path}
    (member : input ∈ command.inputs) :
    (run programs tree command).tree.readBytes input = tree.readBytes input ↔
      ∀ artifact, IsLast (Artifact.Meets tree input) artifact (command.saved tree) →
        tree.readBytes input = .ok artifact.2.toUTF8 := by
  rw [tree_run programs member, Command.saved]
  rcases consists : command.artifacts tree with _ | ⟨artifact, rest⟩
  · simp [Artifact.saveAll, IsLast.not_nil]
  · have planned : artifact ∈ command.artifacts tree := by simp [consists]
    rcases (look_of_mem_artifacts planned).1 input member with ⟨content, shown⟩
    exact Artifact.readBytes_saveAll_iff shown _

/-- A reconciliation or a comparison, whether it succeeds or fails, leaves all its inputs as they
are if and only if each of them holds already what is saved last at its place, if anything is.
Nothing is saved but the files of the command, which are named for the second input where no other
one is given. -/
theorem inputs_kept_iff (programs : Programs) (tree : FileTree) (command : Command) :
    ((∀ input ∈ command.inputs,
        (run programs tree command).tree.readBytes input = tree.readBytes input) ↔
      ∀ input ∈ command.inputs, ∀ artifact,
        IsLast (Artifact.Meets tree input) artifact (command.saved tree) →
          tree.readBytes input = .ok artifact.2.toUTF8) ∧
      ∀ artifact ∈ command.saved tree, artifact.1 ∈ command.outputFiles := by
  constructor
  · apply forall_congr'
    intro input
    apply imp_congr_right
    intro member
    exact input_kept_iff programs member
  · intro artifact member
    exact (look_of_mem_artifacts (Artifact.saveAll_subset tree _ member)).2

/-- The nodes that were added before, beside the artifact they were found in. -/
def fedBack : FileTree :=
  .ofTexts [("out/added_nodes.json", "\x7b\"Blur\": \x7b\x7d\x7d"),
    ("out/nodes.json", "\x7b\"Mix\": \x7b\x7d\x7d")]

/-- An older artifact takes up what is saved beside the newer one. -/
theorem input_lost_of_fedBack :
    let command : Command := .diff ⟨"out/added_nodes.json"⟩ ⟨"out/nodes.json"⟩ none {}
    let ran := run (fun tree _ => (tree, .error .notFound)) fedBack command
    ran.outcome.toOption.isSome = true ∧
      (⟨"out/added_nodes.json"⟩ : Path) ∈ command.inputs ∧
      ran.tree.readText ⟨"out/added_nodes.json"⟩ = .ok "\x7b\n  \"Mix\": \x7b\x7d\n\x7d\n" ∧
      fedBack.readText ⟨"out/added_nodes.json"⟩ = .ok "\x7b\"Blur\": \x7b\x7d\x7d" := by
  decide +kernel

/-! ### The name of a result -/

/-- The result of a reconciliation does not take the place of the translated artifact. -/
theorem target_defaultOutput_ne (translated : Path) (start : Place) :
    (defaultOutput translated).target start ≠ translated.target start := by
  rw [defaultOutput, Path.withFileName]
  cases named : translated.fileName? with
  | none =>
    have plain : Path.IsPlainName ("translation" ++ "_reconciled.json") := by
      constructor <;> decide
    rw [Path.fileStem?, named, Option.map_none, Option.getD_none]
    change (translated.child ("translation" ++ "_reconciled.json")).target start ≠ _
    rw [Path.target_child translated plain]
    intro same
    have lengths := congrArg List.length same
    simp at lengths
  | some name =>
    have single := not_mem_pluginName translated
    rw [pluginName, Path.lastPart?_of_fileName? named] at single
    rcases Path.toList_splitName name with ⟨ending, split, dot⟩
    have plain : Path.IsPlainName ((Path.splitName name).1 ++ "_reconciled.json") := by
      apply Path.isPlainName_of_mem (c := '_') (by simp) (by decide)
      rw [String.toList_append, List.mem_append]
      rintro (inside | inside)
      · exact single (by simp [split, inside])
      · exact absurd inside (by decide)
    have stem : translated.fileStem?.getD "translation" = (Path.splitName name).1 := by
      rw [Path.fileStem?, named]
      rfl
    intro same
    have names := congrArg List.getLast? same
    rw [Path.getLast?_target named, stem, Path.target_child _ plain, List.getLast?_concat,
      Option.some.injEq] at names
    have letters := congrArg String.toList names
    rw [split, String.toList_append, List.append_cancel_left_eq] at letters
    have first := dot '_' (by simp [← letters])
    exact absurd first (by decide)

/-- Without an output file, only a cross check may touch the translated artifact. -/
theorem translated_kept (programs : Programs) (tree : FileTree) (source translated : Path)
    {options : ReconcileOptions} (common : CommonOptions) (noOutput : options.output = none)
    (unchecked : options.mode ≠ .strict) :
    (run programs tree (.reconcile source translated options common)).tree.readBytes translated =
      tree.readBytes translated := by
  apply (input_kept_iff programs (by simp [Command.inputs])).2
  intro artifact isLast
  have listed := (look_of_mem_artifacts (Artifact.saveAll_subset tree _ isLast.mem)).2
  rw [Command.outputFiles, noOutput, if_neg unchecked, Option.getD_none,
    List.mem_singleton] at listed
  have meets := isLast.holds
  rw [Artifact.Meets, listed] at meets
  exact absurd meets (target_defaultOutput_ne translated _)

end CommandLine

end NodeLocale
