import NodeLocale.CommandLine.Execution
import NodeLocale.FileTree.Changes
import NodeLocale.Proofs.Files.AbsolutePaths

/-!
# Settings of the working directory

From the absolute path of a directory the search for a configuration file goes up through all
directories above, to the nearest file or to the top of a repository. Commands start it from a
single dot, above which there is only the path without any part, so they find no file but that of
the working directory itself. A file above is found by the one search and not by the other.
-/

namespace NodeLocale

open FileTree

namespace ConfigFile

variable {tree : FileTree} {start directory : Place} {path : Path} {name : String} {fuel : Nat}

/-- Whether something stands under a name in a directory. -/
def Holds (tree : FileTree) (directory : Place) (name : String) : Prop :=
  tree.node? (directory ++ [name]) ≠ none

instance (tree : FileTree) (directory : Place) (name : String) :
    Decidable (Holds tree directory name) :=
  inferInstanceAs (Decidable (_ ≠ _))

/-- Whether a directory holds the configuration file that is nearest to another one in it, with no
top of a repository below. -/
structure Governs (tree : FileTree) (start directory : Place) : Prop where
  above : directory <+: start
  holds : Holds tree directory fileName
  nearest : ∀ between, directory <+: between → between <+: start → between ≠ directory →
    ¬Holds tree between fileName ∧ ¬Holds tree between repositoryMark

theorem governs_self_iff : Governs tree start start ↔ Holds tree start fileName := by
  constructor
  · exact Governs.holds
  · intro holds
    refine ⟨List.prefix_refl _, holds, ?_⟩
    intro between above below different
    exact absurd (below.eq_of_length (le_antisymm below.length_le above.length_le)) different

theorem Governs.eq_of_holds (governs : Governs tree start directory)
    (holds : Holds tree start fileName) : directory = start := by
  by_contra different
  exact (governs.nearest start governs.above (List.prefix_refl _) (Ne.symm different)).1 holds

theorem governs_concat_iff : Governs tree (start ++ [name]) directory ↔
    directory = start ++ [name] ∧ Holds tree (start ++ [name]) fileName ∨
      (¬Holds tree (start ++ [name]) fileName ∧ ¬Holds tree (start ++ [name]) repositoryMark) ∧
        Governs tree start directory := by
  constructor
  · intro governs
    rcases List.prefix_concat_iff.1 governs.above with rfl | above
    · exact .inl ⟨rfl, governs.holds⟩
    · right
      have different : start ++ [name] ≠ directory := by
        rintro rfl
        simpa using above.length_le
      refine ⟨governs.nearest _ governs.above (List.prefix_refl _) different, above,
        governs.holds, ?_⟩
      intro between below higher
      exact governs.nearest between below (higher.trans (List.prefix_append _ _))
  · rintro (⟨rfl, holds⟩ | ⟨none, governs⟩)
    · exact governs_self_iff.2 holds
    · refine ⟨governs.above.trans (List.prefix_append _ _), governs.holds, ?_⟩
      intro between below higher different
      rcases List.prefix_concat_iff.1 higher with rfl | within
      · exact none
      · exact governs.nearest between below within different

theorem plain_fileName : Path.IsPlainName fileName := by constructor <;> decide

theorem plain_repositoryMark : Path.IsPlainName repositoryMark := by constructor <;> decide

/-! ### From an absolute path -/

/-- Whether the absolute path of a directory is open, and short enough to name the file in it. -/
def Reachable (tree : FileTree) (directory : Place) : Prop :=
  tree.resolve ((pathOf directory).child fileName) = .ok (directory ++ [fileName])

instance (tree : FileTree) (directory : Place) : Decidable (Reachable tree directory) :=
  inferInstanceAs (Decidable (_ = _))

theorem Reachable.isPlain (reachable : Reachable tree start) : start.IsPlain := by
  have absolute : ((pathOf start).child fileName).isAbsolute = true := by
    rw [Path.isAbsolute_child _ plain_fileName, isAbsolute_pathOf]
  have plain := isPlain_target absolute tree.workingDirectory
  rw [← resolve_eq_ok reachable] at plain
  exact fun name member => plain name (by simp [member])

/-- The names that the search asks for lead to their places. -/
theorem Reachable.resolve_child (reachable : Reachable tree start) (above : directory <+: start)
    (asked : name = fileName ∨ name = repositoryMark) :
    tree.resolve ((pathOf directory).child name) = .ok (directory ++ [name]) := by
  rcases resolve_child_eq_ok plain_fileName (by simp [pathOf]) reachable with
    ⟨last, reached, standing, same⟩
  rw [List.append_left_inj] at same
  rw [← same] at reached standing
  rcases resolve_above reachable.isPlain reached standing plain_fileName above with
    ⟨found, stands, shorter⟩
  have short := (resolve_eq_ok_iff.1 reachable).2.2.1
  have smaller : name.utf8ByteSize ≤ fileName.utf8ByteSize := by
    rcases asked with rfl | rfl <;> decide
  have plain : Path.IsPlainName name := by
    rcases asked with rfl | rfl
    · exact plain_fileName
    · exact plain_repositoryMark
  apply resolve_child_of_short plain found stands
  · rcases asked with rfl | rfl <;> decide
  · exact smaller.trans (by decide)
  · rw [utf8ByteSize_child _ plain_fileName] at shorter
    rw [utf8ByteSize_child _ plain]
    omega

/-- What the search asks for is seen. -/
theorem Reachable.pathExists_iff (reachable : Reachable tree start) (above : directory <+: start)
    (asked : name = fileName ∨ name = repositoryMark) :
    tree.pathExists ((pathOf directory).child name) = true ↔ Holds tree directory name := by
  apply FileTree.pathExists_iff (reachable.resolve_child above asked)
  rcases asked with rfl | rfl
  · exact Path.endsWithSeparator_child _ plain_fileName
  · exact Path.endsWithSeparator_child _ plain_repositoryMark

/-- The search goes up to the nearest file. -/
theorem findWithin_pathOf (reachable : Reachable tree start) (above : directory <+: start)
    (enough : directory.length < fuel) :
    findWithin tree fuel (pathOf directory) = some path ↔
      ∃ found, Governs tree directory found ∧ path = (pathOf found).child fileName := by
  induction directory using List.reverseRecOn generalizing fuel with
  | nil =>
    have seen := reachable.pathExists_iff above (.inl rfl)
    have top : ∀ found, Governs tree [] found ↔ found = [] ∧ Holds tree [] fileName := by
      intro found
      constructor
      · intro governs
        have root := List.prefix_nil.1 governs.above
        exact ⟨root, root ▸ governs.holds⟩
      · rintro ⟨rfl, holds⟩
        exact governs_self_iff.2 holds
    rcases fuel with _ | fuel
    · omega
    · have noParent : (pathOf []).parent? = none := by decide
      rw [findWithin]
      by_cases holds : Holds tree [] fileName
      · simp [seen.2 holds, top, holds, eq_comm]
      · simp [mt seen.1 holds, top, holds, noParent]
  | append_singleton front name ih =>
    have seen := reachable.pathExists_iff above (.inl rfl)
    have marked := reachable.pathExists_iff above (.inr rfl)
    rcases fuel with _ | fuel
    · omega
    · have plain : Place.IsPlain (front ++ [name]) :=
        fun other member => reachable.isPlain other (above.subset member)
      have higher : findWithin tree fuel (pathOf front) = some path ↔
          ∃ found, Governs tree front found ∧ path = (pathOf found).child fileName :=
        ih ((List.prefix_append front [name]).trans above) (by simpa using enough)
      rw [findWithin]
      by_cases holds : Holds tree (front ++ [name]) fileName
      · simp [seen.2 holds, governs_concat_iff, holds, eq_comm]
      by_cases top : Holds tree (front ++ [name]) repositoryMark
      · simp [mt seen.1 holds, marked.2 top, governs_concat_iff, holds, top]
      · simp [mt seen.1 holds, mt marked.1 top, governs_concat_iff, holds, top,
          parent?_pathOf plain, higher]

theorem length_le_length_intercalate {names : Place} (plain : names.IsPlain) :
    names.length ≤ (String.intercalate "/" names).toList.length := by
  induction names using List.reverseRecOn with
  | nil => simp
  | append_singleton front name ih =>
    have named := List.length_pos_iff.2 (plain name (by simp)).toList_ne_nil
    by_cases single : front = []
    · rw [single, List.nil_append, String.intercalate_singleton]
      exact named
    · have shorter := ih fun other member => plain other (by simp [member])
      rw [toList_intercalate_concat single]
      simp only [List.length_append, List.length_cons, List.length_nil]
      omega

theorem find?_pathOf (reachable : Reachable tree start) :
    find? tree (pathOf start) = some path ↔
      ∃ found, Governs tree start found ∧ path = (pathOf found).child fileName := by
  apply findWithin_pathOf reachable (List.prefix_refl _)
  have shorter := length_le_length_intercalate reachable.isPlain
  have text : (pathOf start).text.length = 1 + (String.intercalate "/" start).toList.length := by
    rw [pathOf, String.length_append, String.length_toList]
    rfl
  omega

/-! ### From a single dot -/

/-- The names of the configuration file of the working directory that the search asks for. -/
def IsLocal (path : Path) : Prop :=
  path = (Path.mk ".").child fileName ∨ path = (Path.mk "").child fileName

/-- Local names lead into the working directory, if it is there. -/
theorem resolve_local (tree : FileTree) (isLocal : IsLocal path) :
    tree.resolve path = .ok (tree.workingDirectory ++ [fileName]) ∨
      tree.node? tree.workingDirectory ≠ some .directory ∧
        ∃ error, tree.resolve path = .error error := by
  have start : tree.resolve path = tree.follow tree.workingDirectory path.segments := by
    rcases isLocal with rfl | rfl <;> rfl
  have segments : path.segments = [".", fileName] ∨ path.segments = [fileName] := by
    rcases isLocal with rfl | rfl
    · left
      decide
    · right
      decide
  have dot : step tree.workingDirectory "." = tree.workingDirectory := rfl
  have last : step tree.workingDirectory fileName = tree.workingDirectory ++ [fileName] := by
    simp [step, plain_fileName.notHere, plain_fileName.notUp]
  have dotFits : ¬255 < ".".utf8ByteSize := by decide
  have nameFits : ¬255 < fileName.utf8ByteSize := by decide
  rw [start]
  rcases standing : tree.node? tree.workingDirectory with _ | ⟨⟨⟩ | _⟩
  · right
    rcases segments with segments | segments <;> simp [segments, follow, standing]
  · left
    rcases segments with segments | segments <;>
      simp only [segments, follow, standing, dotFits, nameFits, if_false, dot, last]
  · right
    rcases segments with segments | segments <;> simp [segments, follow, standing]

theorem pathExists_local (tree : FileTree) (isLocal : IsLocal path) :
    tree.pathExists path = true ↔ Holds tree tree.workingDirectory fileName := by
  rcases resolve_local tree isLocal with reached | ⟨lost, error, failed⟩
  · apply FileTree.pathExists_iff reached
    rcases isLocal with rfl | rfl <;> exact Path.endsWithSeparator_child _ plain_fileName
  · have absent := node?_below lost (List.prefix_append _ [fileName]) (by simp)
    simp [Holds, absent, pathExists, look, failed, bind, Except.bind]

theorem find?_dot (tree : FileTree) : find? tree ⟨"."⟩ =
    if Holds tree tree.workingDirectory fileName then some ((Path.mk ".").child fileName)
    else none := by
  have above : (Path.mk ".").parent? = some ⟨""⟩ := by decide
  have top : (Path.mk "").parent? = none := by decide
  have here := pathExists_local tree (.inl rfl)
  have again := pathExists_local tree (.inr rfl)
  change findWithin tree 3 ⟨"."⟩ = _
  by_cases holds : Holds tree tree.workingDirectory fileName
  · simp [findWithin, here.2 holds, holds]
  · simp [findWithin, mt here.1 holds, mt again.1 holds, holds, above, top]

/-- The place of the file that the search ends at. -/
def place? (tree : FileTree) (start : Path) : Option Place :=
  (find? tree start).bind fun path => (tree.resolve path).toOption

theorem place?_pathOf (reachable : Reachable tree start) {place : Place} :
    place? tree (pathOf start) = some place ↔
      ∃ found, Governs tree start found ∧ place = found ++ [fileName] := by
  constructor
  · intro ends
    rcases Option.bind_eq_some_iff.1 ends with ⟨path, found, resolved⟩
    rcases (find?_pathOf reachable).1 found with ⟨directory, governs, rfl⟩
    rw [reachable.resolve_child governs.above (.inl rfl)] at resolved
    exact ⟨directory, governs, (Option.some.inj resolved).symm⟩
  · rintro ⟨directory, governs, rfl⟩
    rw [place?, (find?_pathOf reachable).2 ⟨directory, governs, rfl⟩, Option.bind_some,
      reachable.resolve_child governs.above (.inl rfl)]
    rfl

theorem resolve_dot (holds : Holds tree tree.workingDirectory fileName) :
    tree.resolve ((Path.mk ".").child fileName) = .ok (tree.workingDirectory ++ [fileName]) := by
  rcases resolve_local tree (.inl rfl) with resolved | ⟨lost, -⟩
  · exact resolved
  · exact absurd (node?_below lost (List.prefix_append _ [fileName]) (by simp)) holds

theorem place?_dot {place : Place} : place? tree ⟨"."⟩ = some place ↔
    Holds tree tree.workingDirectory fileName ∧ place = tree.workingDirectory ++ [fileName] := by
  rw [place?, find?_dot]
  by_cases holds : Holds tree tree.workingDirectory fileName
  · simp [holds, resolve_dot holds, Except.toOption, eq_comm]
  · simp [holds]

end ConfigFile

namespace CommandLine

open ConfigFile

variable {tree : FileTree} {common : CommonOptions}

/-- A configuration with the output directory that a command was given. -/
def CommonOptions.over (common : CommonOptions) (config : Config) : Config :=
  match common.outputDir with
  | some directory => { config with outputDir := directory }
  | none => config

/-- Whether commands use the configuration file of the nearest directory above the working
directory that has one, and without such a directory the defaults. -/
structure UsesNearest (tree : FileTree) (common : CommonOptions) : Prop where
  file : ∀ directory, Governs tree tree.workingDirectory directory →
    ∃ path, find? tree ⟨"."⟩ = some path ∧ tree.resolve path = .ok (directory ++ [fileName]) ∧
      loadSettings tree common = ((read tree path).mapError .config).map common.over
  defaults : (∀ directory, ¬Governs tree tree.workingDirectory directory) →
    loadSettings tree common = .ok (common.over {})

theorem loadSettings_eq_map : loadSettings tree common =
    ((load tree ⟨"."⟩).mapError .config).map fun loaded => common.over loaded.config := by
  rw [loadSettings]
  cases load tree ⟨"."⟩ <;> rfl

theorem loadSettings_of_find?_eq_some {path : Path} (found : find? tree ⟨"."⟩ = some path) :
    loadSettings tree common = ((read tree path).mapError .config).map common.over := by
  have loaded : load tree ⟨"."⟩ = (read tree path).map fun config => ⟨config, true⟩ := by
    rw [load, found]
    rfl
  rw [loadSettings_eq_map, loaded]
  cases read tree path <;> rfl

theorem loadSettings_of_find?_eq_none (none : find? tree ⟨"."⟩ = none) :
    loadSettings tree common = .ok (common.over {}) := by
  rw [loadSettings_eq_map, load, none]
  rfl

theorem usesNearest_iff_governs (tree : FileTree) (common : CommonOptions) :
    UsesNearest tree common ↔
      ∀ directory, Governs tree tree.workingDirectory directory →
        directory = tree.workingDirectory := by
  constructor
  · intro uses directory governs
    rcases uses.file directory governs with ⟨path, found, resolved, -⟩
    have ends : place? tree ⟨"."⟩ = some (directory ++ [fileName]) := by
      rw [place?, found, Option.bind_some, resolved]
      rfl
    exact List.append_cancel_right (place?_dot.1 ends).2
  · intro own
    refine ⟨?_, ?_⟩
    · intro directory governs
      have here := own directory governs
      subst here
      have found : find? tree ⟨"."⟩ = some ((Path.mk ".").child fileName) := by
        rw [find?_dot, if_pos governs.holds]
      exact ⟨_, found, resolve_dot governs.holds, loadSettings_of_find?_eq_some found⟩
    · intro none
      apply loadSettings_of_find?_eq_none
      rw [find?_dot, if_neg (mt governs_self_iff.2 (none _))]

theorem place?_agrees_iff_governs (reachable : Reachable tree tree.workingDirectory) :
    place? tree ⟨"."⟩ = place? tree (pathOf tree.workingDirectory) ↔
      ∀ directory, Governs tree tree.workingDirectory directory →
        directory = tree.workingDirectory := by
  constructor
  · intro agrees directory governs
    have ends := (place?_pathOf reachable).2 ⟨directory, governs, rfl⟩
    exact List.append_cancel_right (place?_dot.1 (agrees.trans ends)).2
  · intro own
    ext place
    rw [place?_dot, place?_pathOf reachable]
    constructor
    · rintro ⟨holds, rfl⟩
      exact ⟨_, governs_self_iff.2 holds, rfl⟩
    · rintro ⟨directory, governs, rfl⟩
      have here := own directory governs
      subst here
      exact ⟨governs.holds, rfl⟩

/-- Commands use the nearest configuration file, and their search ends where that from the
absolute path of the working directory does, if and only if no directory above the working
directory has the file that is nearest. -/
theorem usesNearest_iff (tree : FileTree) (common : CommonOptions) :
    (UsesNearest tree common ↔
      ∀ directory, Governs tree tree.workingDirectory directory →
        directory = tree.workingDirectory) ∧
    (Reachable tree tree.workingDirectory →
      (place? tree ⟨"."⟩ = place? tree (pathOf tree.workingDirectory) ↔
        ∀ directory, Governs tree tree.workingDirectory directory →
          directory = tree.workingDirectory)) :=
  ⟨usesNearest_iff_governs tree common, place?_agrees_iff_governs⟩

/-- A project with a configuration file, from within. -/
def ownSettings : FileTree :=
  (FileTree.ofTexts [("project/.nodelingorc.json", "\x7b\"batchSize\": 2\x7d"),
    ("project/pack/nodes.py", "")]).enter ["project"]

/-- Commands that run in the directory of the configuration file use it. -/
theorem place?_agrees_of_ownSettings :
    place? ownSettings ⟨"."⟩ = place? ownSettings (pathOf ["project"]) :=
  ((usesNearest_iff ownSettings {}).2 (by decide +kernel)).2 fun _ governs =>
    governs.eq_of_holds (by decide +kernel)

/-- The same project from within one of its directories. -/
def settingsAbove : FileTree := ownSettings.enter ["project", "pack"]

/-- Commands that run in a directory below the configuration file use the defaults. -/
theorem defaults_of_settingsAbove :
    Governs settingsAbove settingsAbove.workingDirectory ["project"] ∧
      ¬UsesNearest settingsAbove {} ∧
      place? settingsAbove (pathOf ["project", "pack"]) = some ["project", ".nodelingorc.json"] ∧
      place? settingsAbove ⟨"."⟩ = none ∧
      (read settingsAbove ⟨"/project/.nodelingorc.json"⟩).toOption.map Config.batchSize = some 2 ∧
      (loadSettings settingsAbove {}).toOption.map Config.batchSize = some 6 := by
  have governs : Governs settingsAbove (["project"] ++ ["pack"]) ["project"] :=
    governs_concat_iff.2 (.inr ⟨by decide +kernel, governs_self_iff.2 (by decide +kernel)⟩)
  refine ⟨governs, ?_, by decide +kernel, by decide +kernel, by decide +kernel, by decide +kernel⟩
  intro uses
  have own := (usesNearest_iff_governs settingsAbove {}).1 uses ["project"] governs
  exact absurd own (by decide +kernel)

end CommandLine

end NodeLocale
