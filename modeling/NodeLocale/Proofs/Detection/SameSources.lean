import NodeLocale.Extraction
import NodeLocale.Proofs.Files.FileNames
import NodeLocale.Proofs.Files.KeptPlaces
import NodeLocale.Proofs.Files.Listing

/-!
# Trees with the same sources

A survey reads nothing but the source files of its directory. So it comes to the same in a tree in
which the directories stand and the files with names of source files are the same ones, whatever
else was written there meanwhile.
-/

namespace NodeLocale

open FileTree

variable {before after last : FileTree} {place other : Place} {root : Path}

/-- Whether a tree has the directories of an earlier one and the same source files, wherever they
stand. -/
structure SameSources (before after : FileTree) : Prop where
  directories : DirectoriesStand before after
  sources : ∀ place, Survey.isCandidate (pathOf place) = true → ∀ content,
    after.node? place = some (.file content) ↔ before.node? place = some (.file content)
  beforeNamed : before.WellNamed
  afterNamed : after.WellNamed

namespace SameSources

theorem refl (named : before.WellNamed) : SameSources before before :=
  ⟨.refl before, fun _ _ _ => Iff.rfl, named, named⟩

theorem trans (first : SameSources before after) (second : SameSources after last) :
    SameSources before last := by
  refine ⟨first.directories.trans second.directories, ?_, first.beforeNamed, second.afterNamed⟩
  intro place candidate content
  rw [second.sources place candidate, first.sources place candidate]

end SameSources

/-- A file at a place with plain names is shown in every tree that has it there. -/
theorem FileTree.look_pathOf {content : ByteArray} (plain : place.IsPlain) (inner : place ≠ [])
    (shown : before.look (pathOf place) = .ok (.file content))
    (kept : ∀ content, before.node? place = some (.file content) →
      after.node? place = some (.file content)) :
    after.node? place = some (.file content) ∧
      after.look (pathOf place) = .ok (.file content) := by
  have unseparated := unseparated_pathOf plain inner
  rcases (look_eq_file_iff unseparated).1 shown with ⟨reachedPlace, reached, standing⟩
  have same : reachedPlace = place := by
    rw [resolve_eq_ok reached, target_pathOf plain]
  rw [same] at standing
  have stands := kept content standing
  refine ⟨stands, (look_eq_file_iff unseparated).2 ?_⟩
  exact ⟨place, resolve_pathOf plain reached stands, stands⟩

namespace Survey

variable {ignored : List Glob}

/-- Whether a file that may define nodes and is not ignored stands at a place below a directory. -/
def IsSource (ignored : List Glob) (tree : FileTree) (place other : Place) : Prop :=
  other ∈ tree.placesBelow place ∧ (tree.isFile (pathOf other) && isCandidate (pathOf other) &&
    !(ignored.any fun pattern => pattern.accepts (pathOf other).text)) = true

/-- Where its file stands in another tree, a source is a source there and shows the same. -/
theorem IsSource.transfer (source : IsSource ignored before place other)
    (named : before.WellNamed)
    (kept : isCandidate (pathOf other) = true → ∀ content,
      before.node? other = some (.file content) → after.node? other = some (.file content)) :
    IsSource ignored after place other ∧
      after.look (pathOf other) = before.look (pathOf other) := by
  rcases source with ⟨listed, accepted⟩
  rcases mem_placesBelow_iff.1 listed with ⟨member, below, different⟩
  rw [Bool.and_eq_true, Bool.and_eq_true] at accepted
  rcases accepted with ⟨⟨file, candidate⟩, free⟩
  have inner : other ≠ [] := by
    rintro rfl
    exact different (List.prefix_nil.1 below).symm
  rcases isFile_iff.1 file with ⟨content, shown⟩
  rcases look_pathOf (named other member) inner shown (kept candidate) with ⟨stands, stillShown⟩
  have stillFile : after.isFile (pathOf other) = true := isFile_iff.2 ⟨content, stillShown⟩
  refine ⟨⟨mem_placesBelow_iff.2 ⟨mem_keys_of_node? inner stands, below, different⟩, ?_⟩, ?_⟩
  · rw [stillFile, candidate, free]
    rfl
  · rw [shown, stillShown]

theorem mem_candidates {files : List Path} {file : Path}
    (listed : candidates ignored before root = .ok files) (member : file ∈ files) :
    ∃ place other, IsSource ignored before place other ∧ file = pathOf other := by
  rw [candidates] at listed
  split at listed
  · simp at listed
  split at listed
  · simp at listed
  split at listed
  · rw [Except.ok.injEq] at listed
    simp [← listed] at member
  · rename_i place reached
    rw [Except.ok.injEq] at listed
    rw [← listed, List.mem_filter, List.mem_map] at member
    rcases member with ⟨⟨other, below, rfl⟩, accepted⟩
    exact ⟨place, other, ⟨below, accepted⟩, rfl⟩

end Survey

namespace SameSources

variable {ignored : List Glob} {tables : TypeTables}

theorem isSource_iff (same : SameSources before after) :
    Survey.IsSource ignored after place other ↔ Survey.IsSource ignored before place other := by
  constructor
  · intro source
    refine (source.transfer same.afterNamed ?_).1
    intro candidate content
    exact (same.sources other candidate content).1
  · intro source
    refine (source.transfer same.beforeNamed ?_).1
    intro candidate content
    exact (same.sources other candidate content).2

theorem look_directory (same : SameSources before after)
    (standing : before.isDirectory root = true) :
    ∃ place, before.resolve root = .ok place ∧ after.resolve root = .ok place ∧
      before.look root = .ok .directory ∧ after.look root = .ok .directory := by
  have shown := isDirectory_iff.1 standing
  rcases look_eq_directory_iff.1 shown with ⟨place, reached, directory⟩
  have stillReached := resolve_of_directoriesStand same.directories reached
  refine ⟨place, reached, stillReached, shown, look_eq_directory_iff.2 ⟨place, stillReached, ?_⟩⟩
  exact same.directories.stand place directory

theorem candidates_eq (same : SameSources before after)
    (standing : before.isDirectory root = true) :
    Survey.candidates ignored after root = Survey.candidates ignored before root := by
  rcases same.look_directory standing with ⟨place, reached, stillReached, shown, stillShown⟩
  have listed : ∀ {tree : FileTree}, tree.look root = .ok .directory →
      tree.resolve root = .ok place → Survey.candidates ignored tree root =
        .ok (((tree.placesBelow place).map pathOf).filter fun file =>
          tree.isFile file && Survey.isCandidate file &&
            !(ignored.any fun pattern => pattern.accepts file.text)) := by
    intro tree shown reached
    simp [Survey.candidates, pathExists, isDirectory, shown, reached]
  rw [listed shown reached, listed stillShown stillReached, List.filter_map, List.filter_map]
  refine congrArg (fun places : List Place => Except.ok (places.map pathOf)) ?_
  apply filter_placesBelow_eq
  intro other
  exact same.isSource_iff

theorem readFile_eq (same : SameSources before after) {files : List Path}
    (listed : Survey.candidates ignored before root = .ok files) {file : Path}
    (member : file ∈ files) : Survey.readFile after file = Survey.readFile before file := by
  rcases Survey.mem_candidates listed member with ⟨place, other, source, rfl⟩
  have shown := (source.transfer same.beforeNamed fun candidate content =>
    (same.sources other candidate content).2).2
  simp only [Survey.readFile, readText, readBytes, shown]

theorem canonical?_eq (same : SameSources before after)
    (standing : before.isDirectory root = true) :
    after.canonical? root = before.canonical? root := by
  rcases same.look_directory standing with ⟨place, reached, stillReached, shown, stillShown⟩
  simp only [canonical?, shown, stillShown, reached, stillReached]

end SameSources

/-! ### What keeps sources -/

variable {tree : FileTree} {path : Path} {text : String}

theorem Survey.getLast?_of_isCandidate {name : String} (plain : place.IsPlain)
    (isLast : place.getLast? = some name) (candidate : isCandidate (pathOf place) = true) :
    name.toList.getLast? = some 'y' := by
  have named : (pathOf place).fileName? = some name := by
    rw [Path.fileName?, lastPart?_pathOf plain isLast]
  simp only [isCandidate, named, Path.extension?, Option.bind_some, Bool.and_eq_true,
    decide_eq_true_eq] at candidate
  exact Path.getLast?_of_splitName candidate.1.1 (by decide)

theorem FileTree.createDirectory_eq_ok (created : tree.createDirectory path = .ok after) :
    ∃ place, tree.resolve path = .ok place ∧ tree.node? place = none ∧
      after = tree.put place .directory := by
  rw [createDirectory] at created
  cases reached : tree.resolve path with
  | error error => simp [reached, bind, Except.bind] at created
  | ok place =>
    simp only [reached, bind, Except.bind] at created
    split at created
    · simp [throw, throwThe, MonadExceptOf.throw] at created
    · rename_i free
      simp only [pure, Except.pure, Except.ok.injEq] at created
      exact ⟨place, rfl, free, created.symm⟩

theorem sameSources_of_createDirectory (named : tree.WellNamed)
    (created : tree.createDirectory path = .ok after) : SameSources tree after := by
  have grown := grown_of_createDirectory created
  refine ⟨grown.directoriesStand, ?_, named, ?_⟩
  · intro place _ content
    exact (grown.keptAt place).file_iff
  · rcases createDirectory_eq_ok created with ⟨place, reached, free, rfl⟩
    apply named.put (named.isPlain_of_resolve reached _)
    simp [free]

theorem sameSources_of_ensureDirectory (named : tree.WellNamed) (path : Path) :
    SameSources tree (tree.ensureDirectory path).1 := by
  rw [ensureDirectory]
  split
  · rename_i created
    exact sameSources_of_createDirectory named created
  · split <;> exact .refl named

/-- To write a file that is not called like a source keeps the sources. -/
theorem sameSources_of_writeText (named : tree.WellNamed)
    (wrote : tree.writeText path text = .ok after)
    (noSource : ∀ name, (path.target tree.workingDirectory).getLast? = some name →
      name.toList.getLast? ≠ some 'y') : SameSources tree after := by
  rcases writeText_eq_ok_iff.1 wrote with ⟨-, target, reached, noDirectory, rfl⟩
  have plain := named.isPlain_of_resolve reached noDirectory
  refine ⟨directoriesStand_put tree target _, ?_, named, named.put plain _⟩
  intro place candidate content
  by_cases same : place = target
  · subst same
    rw [← resolve_eq_ok reached] at noSource
    rcases List.eq_nil_or_concat place with rfl | ⟨front, name, rfl⟩
    · simp at noDirectory
    · have isLast : (front.concat name).getLast? = some name := by simp
      exact absurd (Survey.getLast?_of_isCandidate plain isLast candidate) (noSource name isLast)
  · rw [node?_put_of_ne same]

end NodeLocale
