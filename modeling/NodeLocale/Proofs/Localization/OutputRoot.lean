import NodeLocale.FileTree.Changes
import NodeLocale.Proofs.Files.ParentPath
import NodeLocale.Proofs.Localization.Completion
import NodeLocale.Proofs.Localization.Matching

/-!
# Runs stay below the output directory

Everything that a run saves and removes, and all directories that are made for it, are below the
output directory, since the name of a plugin is one segment of a path. The exception is a plugin
whose path ends in two dots: these are its name, and its artifacts go beside the output directory
instead of into it. Directories on the way to the output directory may be made as well.
-/

namespace NodeLocale

open FileTree

/-- Whether a place is in a directory or in one below it. -/
def Place.Below (place directory : Place) : Prop := directory <+: place ∧ place ≠ directory

instance (place directory : Place) : Decidable (place.Below directory) :=
  inferInstanceAs (Decidable (_ ∧ _))

/-- Below the root is every other place. -/
theorem Place.below_root_iff {place : Place} : place.Below [] ↔ place ≠ [] := by
  simp [Below]

theorem Place.below_append {place others : Place} (more : others ≠ []) :
    (place ++ others).Below place :=
  ⟨List.prefix_append _ _, by simpa using more⟩

theorem Place.Below.append {place directory : Place} (below : place.Below directory)
    (others : Place) : (place ++ others).Below directory := by
  refine ⟨below.1.trans (List.prefix_append _ _), ?_⟩
  rintro rfl
  exact below.2 ((List.prefix_append _ _).eq_of_length
    (Nat.le_antisymm (List.prefix_append _ _).length_le below.1.length_le))

/-- Whether a place is left alone while something goes on in an output directory: at most a
directory comes to it, and only if it is the output directory or on the way to that. -/
structure KeptBeside (output : Path) (place : Place) (before after : FileTree) : Prop where
  workingDirectory : after.workingDirectory = before.workingDirectory
  kept : KeptAt before after place
  same : place ≠ output.target before.workingDirectory →
    (∀ directory, output.OnWay directory →
      place ≠ directory.target before.workingDirectory) →
    after.node? place = before.node? place

namespace KeptBeside

variable {output : Path} {place : Place} {before after last : FileTree}

theorem of_eq (sameStart : after.workingDirectory = before.workingDirectory)
    (same : after.node? place = before.node? place) : KeptBeside output place before after :=
  ⟨sameStart, .of_eq same, fun _ _ => same⟩

theorem trans (first : KeptBeside output place before after)
    (second : KeptBeside output place after last) : KeptBeside output place before last := by
  refine ⟨second.workingDirectory.trans first.workingDirectory, first.kept.trans second.kept, ?_⟩
  intro notOutput outside
  have later := second.same
  rw [first.workingDirectory] at later
  exact (later notOutput outside).trans (first.same notOutput outside)

end KeptBeside

/-- Whether a path leads elsewhere than to a place, and passes it only on the way to the output
directory. -/
structure Path.Avoids (path output : Path) (place start : Place) : Prop where
  elsewhere : place ≠ path.target start
  outside : place ≠ output.target start →
    (∀ directory, output.OnWay directory → place ≠ directory.target start) →
    ∀ directory, path.OnWay directory → place ≠ directory.target start

/-! ### What goes on at paths that avoid a place -/

section Avoiding

variable {output path : Path} {place : Place} {tree : FileTree}

theorem Artifact.keptBeside_saveText (text : String)
    (avoids : path.Avoids output place tree.workingDirectory) :
    KeptBeside output place tree (saveText tree path text).1 where
  workingDirectory := workingDirectory_saveText tree path text
  kept := keptAt_saveText avoids.elsewhere
  same notOutput outside :=
    node?_saveText text avoids.elsewhere (avoids.outside notOutput outside)

theorem FileTree.keptBeside_createDirectories
    (avoids : path.Avoids output place tree.workingDirectory) :
    KeptBeside output place tree (tree.createDirectories path).1 where
  workingDirectory := (grown_createDirectories tree path).workingDirectory
  kept := (grown_createDirectories tree path).keptAt place
  same notOutput outside :=
    node?_createDirectoriesWithin _ tree path avoids.elsewhere
      (avoids.outside notOutput outside)

theorem OutputDirs.keptBeside_createAll {paths : List Path}
    (avoid : ∀ path ∈ paths, path.Avoids output place tree.workingDirectory) :
    KeptBeside output place tree (createAll tree paths).1 := by
  induction paths generalizing tree with
  | nil => exact .of_eq rfl rfl
  | cons path rest ih =>
    rw [List.forall_mem_cons] at avoid
    have first := FileTree.keptBeside_createDirectories avoid.1
    rw [createAll]
    split
    · rename_i reached created
      rw [created] at first
      rw [← first.workingDirectory] at avoid
      exact first.trans (ih avoid.2)
    · rename_i reached error failed
      rwa [failed] at first

theorem Reconciled.keptBeside_save (reconciled : Reconciled) {nodesFile logFile : Path}
    (nodesAvoid : nodesFile.Avoids output place tree.workingDirectory)
    (logAvoids : logFile.Avoids output place tree.workingDirectory) :
    KeptBeside output place tree (reconciled.save tree nodesFile logFile).1 := by
  have nodesSaved :=
    Artifact.keptBeside_saveText (Artifact.text reconciled.nodes.toJson) nodesAvoid
  rw [save, Artifact.saveJson]
  split <;> rename_i saved
  · rwa [saved] at nodesSaved
  · rw [saved] at nodesSaved
    rw [← nodesSaved.workingDirectory] at logAvoids
    exact nodesSaved.trans (Artifact.keptBeside_saveText _ logAvoids)

theorem LocalizationRun.keptBeside_removeFiles {paths : List Path}
    (avoid : ∀ path ∈ paths, path.Avoids output place tree.workingDirectory) :
    KeptBeside output place tree (removeFiles tree paths) := by
  have removed := removed_removeFiles tree paths
  refine .of_eq removed.workingDirectory (removed.elsewhere place ?_)
  intro among
  rcases List.mem_map.1 among with ⟨path, member, leads⟩
  exact (avoid path member).elsewhere leads.symm

theorem LocalizationService.Spares.keptBeside {service : LocalizationService}
    (spared : service.Spares place) (request : LocalizationRequest) :
    KeptBeside output place tree (service tree request).1 :=
  .of_eq (spared.workingDirectory tree request) (spared.node? tree request)

end Avoiding

namespace OutputDirs

variable {dirs : OutputDirs} {path : Path} {place start : Place}

/-! ### The artifacts of a run -/

/-- The directories that are made for a run, and the files that it saves or removes. -/
inductive Holds (dirs : OutputDirs) : Path → Prop
  | temp : Holds dirs dirs.temp
  | localized : Holds dirs dirs.localized
  | logs : Holds dirs dirs.logs
  | debug : Holds dirs dirs.debug
  | pendingFile : Holds dirs dirs.pendingFile
  | batchFile (batch : Nat) : Holds dirs (dirs.batchFile batch)
  | batchLogFile (batch : Nat) : Holds dirs (dirs.batchLogFile batch)
  | finalFile : Holds dirs dirs.finalFile
  | finalLogFile : Holds dirs dirs.finalLogFile

/-- Whether all that a run holds avoids a place. -/
def Avoid (dirs : OutputDirs) (place start : Place) : Prop :=
  ∀ path, dirs.Holds path → path.Avoids dirs.output place start

theorem keptBeside_create {tree : FileTree} (avoid : dirs.Avoid place tree.workingDirectory) :
    KeptBeside dirs.output place tree (create tree dirs).1 := by
  apply keptBeside_createAll
  simp only [List.forall_mem_cons]
  exact ⟨avoid _ .temp, avoid _ .localized, avoid _ .logs, avoid _ .debug, by simp⟩

end OutputDirs

namespace LocalizationRun

variable {run : LocalizationRun} {total : Nat} {batch : Batch} {place : Place}
  {tree : FileTree} {before last : RunState}

/-! ### A run -/

theorem keptBeside_of_step {result : Except TranslateError Unit}
    (step : BatchStep run total batch before last result) (spared : run.service.Spares place)
    (avoid : run.dirs.Avoid place before.tree.workingDirectory) :
    KeptBeside run.dirs.output place before.tree last.tree := by
  have asked : KeptBeside run.dirs.output place before.tree
      (run.afterRequest total batch before).tree := spared.keptBeside (run.request batch)
  have saving (reconciled : Reconciled) : KeptBeside run.dirs.output place before.tree
      (run.saveBatch (run.afterRequest total batch before).tree batch reconciled).1 := by
    rw [← asked.workingDirectory] at avoid
    exact asked.trans
      (reconciled.keptBeside_save (avoid _ (.batchFile _)) (avoid _ (.batchLogFile _)))
  cases step with
  | resumed found => exact .of_eq rfl rfl
  | serviceFailed absent answered => exact asked
  | panicked absent answered uncounted => exact asked
  | replyUnusable absent answered counted unread => exact asked
  | @notSaved _ _ candidate after _ absent answered counted read unsaved =>
    have kept := saving (reconcileBatch batch.nodes candidate)
    rwa [unsaved] at kept
  | @translated _ _ candidate after absent answered counted read saved =>
    have kept := saving (reconcileBatch batch.nodes candidate)
    rwa [saved] at kept

theorem Processed.keptBeside {done : List Batch} {first : RunState}
    (processed : Processed run total done first last) (spared : run.service.Spares place)
    (avoid : run.dirs.Avoid place first.tree.workingDirectory) :
    KeptBeside run.dirs.output place first.tree last.tree := by
  induction processed with
  | none => exact .of_eq rfl rfl
  | next earlier unseen step ih =>
    have kept := ih avoid
    rw [← kept.workingDirectory] at avoid
    exact kept.trans (keptBeside_of_step step spared avoid)

theorem BatchesEnd.keptBeside {batches : List Batch} {first : RunState}
    {result : Except TranslateError (Option Nat)}
    (ends : BatchesEnd run total batches first last result) (spared : run.service.Spares place)
    (avoid : run.dirs.Avoid place first.tree.workingDirectory) :
    KeptBeside run.dirs.output place first.tree last.tree := by
  cases ends with
  | finished processed => exact processed.keptBeside spared avoid
  | cancelledBefore split processed seen => exact processed.keptBeside spared avoid
  | cancelledAfter split processed seen more => exact processed.keptBeside spared avoid
  | failed split processed step =>
    have kept := processed.keptBeside spared avoid
    rw [← kept.workingDirectory] at avoid
    exact kept.trans (keptBeside_of_step step spared avoid)

theorem keptBeside_finish (pending : NodeMap) (total : Nat)
    (avoid : run.dirs.Avoid place before.tree.workingDirectory)
    (registered : ∀ path ∈ before.tempFiles, run.dirs.Holds path) :
    KeptBeside run.dirs.output place before.tree (run.finish pending total before).1.tree := by
  have saving : KeptBeside run.dirs.output place before.tree
      (run.saveResult before.tree (run.validated pending before)).1 :=
    Reconciled.keptBeside_save _ (avoid _ .finalFile) (avoid _ .finalLogFile)
  rcases kept : run.saveResult before.tree (run.validated pending before) with ⟨tree, error | _⟩
  · rw [kept] at saving
    rw [finish_of_unsaved kept]
    exact saving
  · rw [kept] at saving
    rw [finish_of_saved kept, tree_afterResult]
    split
    · exact saving
    · rw [← saving.workingDirectory] at avoid
      exact saving.trans
        (keptBeside_removeFiles fun path member => avoid path (registered path member))

/-- However a run ends, it keeps to its artifacts. -/
theorem keptBeside_execute (nodes : NodeMap) (spared : run.service.Spares place)
    (avoid : run.dirs.Avoid place tree.workingDirectory) :
    KeptBeside run.dirs.output place tree (run.execute tree nodes).1.tree := by
  have preparing := Artifact.keptBeside_saveText
    (Artifact.text nodes.withoutSources.toJson) (avoid _ .pendingFile)
  change KeptBeside _ _ _ (Artifact.saveJson _ _ _).1 at preparing
  have ends := runEnd_execute run tree nodes
  generalize run.execute tree nodes = result at ends ⊢
  rcases result with ⟨after, outcome⟩
  cases ends with
  | unprepared unsaved => rwa [unsaved] at preparing
  | failed saved ended =>
    rw [saved] at preparing
    rw [← preparing.workingDirectory] at avoid
    exact preparing.trans (ended.keptBeside spared avoid)
  | cancelled saved ended =>
    rw [saved] at preparing
    rw [← preparing.workingDirectory] at avoid
    exact preparing.trans (ended.keptBeside spared avoid)
  | @finished prepared last _ _ saved processed ended =>
    rw [saved] at preparing
    rw [← preparing.workingDirectory] at avoid
    have processing : KeptBeside run.dirs.output place prepared last.tree :=
      processed.keptBeside spared avoid
    change run.dirs.Avoid place prepared.workingDirectory at avoid
    rw [← processing.workingDirectory] at avoid
    have tempFiles : last.tempFiles = run.removable nodes :=
      processed.tempFiles rfl (nodup_index_batches run nodes)
    have registered : ∀ path ∈ last.tempFiles, run.dirs.Holds path := by
      rw [tempFiles]
      intro path member
      rcases List.mem_cons.1 member with rfl | later
      · exact .pendingFile
      · rcases List.mem_map.1 later with ⟨batch, -, rfl⟩
        exact .batchFile _
    have finishing := keptBeside_finish nodes.withoutSources (run.batches nodes).length avoid
      registered
    rw [ended] at finishing
    exact (preparing.trans processing).trans finishing

end LocalizationRun

/-! ### Plugins with a name -/

/-- Whether a path leads below the output directory, and only passes what is below it, too, or on
the way to it. -/
structure Path.Inside (path output : Path) (start : Place) : Prop where
  below : (path.target start).Below (output.target start)
  way : ∀ directory, path.OnWay directory →
    (directory.target start).Below (output.target start) ∨
      directory.target start = output.target start ∨ output.OnWay directory

namespace Path.Inside

variable {path output : Path} {name : String} {place start : Place}

theorem of_plain (plain : IsPlainName name) : (output.child name).Inside output start := by
  refine ⟨?_, ?_⟩
  · rw [target_child _ plain]
    exact Place.below_append (by simp)
  · intro directory way
    rcases onWay_child plain way with rfl | higher
    · exact .inr (.inl (target_trimmed output start))
    · exact .inr (.inr higher)

theorem child (inside : path.Inside output start) (plain : IsPlainName name) :
    (path.child name).Inside output start := by
  refine ⟨?_, ?_⟩
  · rw [target_child _ plain]
    exact inside.below.append [name]
  · intro directory way
    rcases onWay_child plain way with rfl | higher
    · rw [target_trimmed]
      exact .inl inside.below
    · exact inside.way directory higher

theorem avoids (inside : path.Inside output start)
    (beside : ¬place.Below (output.target start)) : path.Avoids output place start := by
  refine ⟨?_, ?_⟩
  · rintro rfl
    exact beside inside.below
  · rintro notOutput outside directory way rfl
    rcases inside.way directory way with below | same | above
    · exact beside below
    · exact notOutput same
    · exact outside directory above rfl

end Path.Inside

namespace OutputDirs

variable {output plugin path : Path} {place start : Place}

theorem inside_of_holds (named : pluginName plugin ≠ "..")
    (held : (ofPlugin output plugin).Holds path) : path.Inside output start := by
  have root : (ofPlugin output plugin).root.Inside output start :=
    .of_plain (isPlainName_pluginName named)
  cases held with
  | temp => exact root.child plain_temp
  | localized => exact root.child plain_localized
  | logs => exact root.child plain_logs
  | debug => exact root.child plain_debug
  | pendingFile => exact (root.child plain_temp).child plain_pending
  | batchFile batch => exact (root.child plain_localized).child (plain_batch batch)
  | batchLogFile batch => exact (root.child plain_logs).child (plain_batchLog batch)
  | finalFile => exact (root.child plain_localized).child (plain_final plugin)
  | finalLogFile => exact (root.child plain_logs).child plain_finalLog

/-- Everything that a run holds is called by a plain name. -/
theorem exists_child_of_holds (held : (ofPlugin output plugin).Holds path) :
    ∃ (directory : Path) (name : String), Path.IsPlainName name ∧ path = directory.child name := by
  cases held with
  | temp => exact ⟨_, _, plain_temp, rfl⟩
  | localized => exact ⟨_, _, plain_localized, rfl⟩
  | logs => exact ⟨_, _, plain_logs, rfl⟩
  | debug => exact ⟨_, _, plain_debug, rfl⟩
  | pendingFile => exact ⟨_, _, plain_pending, rfl⟩
  | batchFile batch => exact ⟨_, _, plain_batch batch, rfl⟩
  | batchLogFile batch => exact ⟨_, _, plain_batchLog batch, rfl⟩
  | finalFile => exact ⟨_, _, plain_final plugin, rfl⟩
  | finalLogFile => exact ⟨_, _, plain_finalLog, rfl⟩

theorem target_ne_nil_of_holds (held : (ofPlugin output plugin).Holds path) :
    path.target start ≠ [] := by
  rcases exists_child_of_holds held with ⟨directory, name, plain, rfl⟩
  rw [Path.target_child _ plain]
  simp

/-- Whether the plugin has a name other than two dots, or no place lies outside of the output
directory. -/
def Encloses (output plugin : Path) (start : Place) : Prop :=
  pluginName plugin ≠ ".." ∨ output.target start = []

instance (output plugin : Path) (start : Place) : Decidable (Encloses output plugin start) :=
  inferInstanceAs (Decidable (_ ∨ _))

theorem forall_below_iff : (∀ path, (ofPlugin output plugin).Holds path →
    (path.target start).Below (output.target start)) ↔ Encloses output plugin start := by
  constructor
  · intro below
    by_contra beside
    rw [Encloses, not_or, not_not] at beside
    have logs := below _ .logs
    have leads : (ofPlugin output plugin).logs.target start =
        (output.target start).dropLast ++ ["logs"] := by
      change ((output.child (pluginName plugin)).child "logs").target start = _
      rw [beside.1, Path.target_child _ plain_logs, Path.target_child_up]
    -- The directory of the logs is as deep as the output directory itself.
    have level : (output.target start).length =
        ((ofPlugin output plugin).logs.target start).length := by
      have deep := List.length_pos_iff.2 beside.2
      rw [leads, List.length_append, List.length_dropLast, List.length_singleton]
      omega
    exact logs.2 (logs.1.eq_of_length level).symm
  · rintro (named | root) path held
    · exact (inside_of_holds named held).below
    · rw [root, Place.below_root_iff]
      exact target_ne_nil_of_holds held

theorem avoid_of_encloses (encloses : Encloses output plugin start)
    (beside : ¬place.Below (output.target start)) :
    (ofPlugin output plugin).Avoid place start := by
  intro path held
  rcases encloses with named | root
  · exact (inside_of_holds named held).avoids beside
  · rw [root, Place.below_root_iff, not_not] at beside
    refine ⟨?_, ?_⟩
    · rw [beside]
      exact (target_ne_nil_of_holds held).symm
    · intro notOutput
      exact absurd (beside.trans root.symm) notOutput

end OutputDirs

namespace LocalizationRun

open OutputDirs

/-- All that is made, saved or removed for a plugin is below the output directory if and only if
the plugin has a name other than two dots, or the output directory is the root. Then nothing that
is not below the output directory changes, apart from missing directories that lead to it and that
directory itself, however a run ends. -/
theorem keptBeside_output_iff (output plugin : Path) (tree : FileTree) :
    ((∀ path, (ofPlugin output plugin).Holds path →
        (path.target tree.workingDirectory).Below (output.target tree.workingDirectory)) ↔
      Encloses output plugin tree.workingDirectory) ∧
    (Encloses output plugin tree.workingDirectory →
      ∀ place : Place, ¬place.Below (output.target tree.workingDirectory) →
        KeptBeside output place tree (create tree (ofPlugin output plugin)).1 ∧
        ∀ (run : LocalizationRun) (nodes : NodeMap), run.dirs = ofPlugin output plugin →
          run.service.Spares place →
            KeptBeside output place tree (run.execute tree nodes).1.tree) := by
  refine ⟨forall_below_iff, ?_⟩
  intro encloses place beside
  have avoid := avoid_of_encloses encloses beside
  refine ⟨keptBeside_create avoid, ?_⟩
  intro run nodes named spared
  rw [← named] at avoid
  have kept := keptBeside_execute nodes spared avoid
  rwa [named] at kept

/-- A directory with a file beside the output directory. -/
def withNotes : FileTree := .ofTexts [("notes.txt", "")]

/-- A run for the plugin `pack` keeps the file. -/
theorem notes_kept_of_pack :
    KeptBeside ⟨"out"⟩ ["notes.txt"] withNotes (create withNotes (sampleDirs "pack")).1 ∧
      KeptBeside ⟨"out"⟩ ["notes.txt"] withNotes
        ((echoRun "pack").execute withNotes sampleNode).1.tree := by
  have kept := (keptBeside_output_iff ⟨"out"⟩ ⟨"pack"⟩ withNotes).2 (by decide +kernel)
    ["notes.txt"] (by decide +kernel)
  exact ⟨kept.1, kept.2 (echoRun "pack") sampleNode rfl (LocalizationService.spares_ofReplies _ _)⟩

/-- The plugin that is given by two dots has its artifacts beside the output directory. -/
theorem localized_beside_of_up :
    let made := create withNotes (sampleDirs "..")
    let ran := (echoRun "..").execute made.1 sampleNode
    (completedRun? ran.2).isSome = true ∧
      ¬Place.Below ["logs"] ["out"] ∧ withNotes.node? ["logs"] = none ∧
      made.1.node? ["logs"] = some .directory ∧
      ¬Place.Below ["translations", "...json"] ["out"] ∧
      made.1.node? ["translations", "...json"] = none ∧
      ran.1.tree.isFile ⟨"translations/...json"⟩ = true := by
  decide +kernel

end LocalizationRun

end NodeLocale
