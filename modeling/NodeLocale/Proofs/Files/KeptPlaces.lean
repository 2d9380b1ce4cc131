import NodeLocale.Proofs.Files.OutputPlaces

/-!
# Places that are kept

Saving an artifact touches one place. Whatever stands at another one stays, and at most a directory
comes to a place that was free; this also holds when saving fails halfway. Only directories on the
way to the artifact come so, and no other place changes at all. The content of a file is read here
at the place to which its path leads, whether or not the way there is open.
-/

namespace NodeLocale

namespace FileTree

variable {before after last tree : FileTree} {place : Place} {path : Path} {content : ByteArray}

/-- The content of the file at the place to which a path leads. -/
def content? (tree : FileTree) (path : Path) : Option ByteArray :=
  match tree.node? (path.target tree.workingDirectory) with
  | some (.file content) => some content
  | _ => none

theorem content?_eq_some_iff : tree.content? path = some content ↔
    tree.node? (path.target tree.workingDirectory) = some (.file content) := by
  rw [content?]
  split <;> simp_all

theorem content?_eq_none_iff : tree.content? path = none ↔ tree.HasNoFile path := by
  rw [Option.eq_none_iff_forall_ne_some]
  apply forall_congr'
  intro content
  rw [ne_eq, content?_eq_some_iff]

theorem content?_of_look (shown : tree.look path = .ok (.file content))
    (unseparated : path.endsWithSeparator = false) : tree.content? path = some content := by
  rcases (look_eq_file_iff unseparated).1 shown with ⟨place, reached, standing⟩
  rw [content?_eq_some_iff, ← resolve_eq_ok reached, standing]

/-- Whether what stood at a place stands there still and, if nothing did, no file came to it. -/
structure KeptAt (before after : FileTree) (place : Place) : Prop where
  stays : ∀ node, before.node? place = some node → after.node? place = some node
  free : before.node? place = none → after.node? place = none ∨
    after.node? place = some .directory

theorem KeptAt.of_eq (same : after.node? place = before.node? place) :
    KeptAt before after place := by
  constructor
  · intro node standing
    rw [same, standing]
  · intro free
    exact Or.inl (same.trans free)

theorem KeptAt.trans (first : KeptAt before after place) (second : KeptAt after last place) :
    KeptAt before last place := by
  constructor
  · intro node standing
    exact second.stays node (first.stays node standing)
  · intro free
    rcases first.free free with stillFree | created
    · exact second.free stillFree
    · exact Or.inr (second.stays _ created)

/-- Files come to a kept place no more than they go. -/
theorem KeptAt.file_iff (kept : KeptAt before after place) :
    after.node? place = some (.file content) ↔ before.node? place = some (.file content) := by
  constructor
  · intro standing
    cases earlier : before.node? place with
    | none => rcases kept.free earlier with free | created <;> simp_all
    | some node => rw [← kept.stays node earlier, standing]
  · intro standing
    exact kept.stays _ standing

theorem KeptAt.content?_eq (kept : KeptAt before after (path.target before.workingDirectory))
    (sameStart : after.workingDirectory = before.workingDirectory) :
    after.content? path = before.content? path := by
  apply Option.ext
  intro content
  rw [content?_eq_some_iff, content?_eq_some_iff, sameStart]
  exact kept.file_iff

theorem Grown.keptAt (grown : Grown before after) (place : Place) : KeptAt before after place :=
  ⟨grown.kept place, grown.added place⟩

theorem Grown.directoriesStand (grown : Grown before after) : DirectoriesStand before after :=
  ⟨grown.workingDirectory, fun place => grown.kept place _⟩

theorem unseparated_of_look (shown : tree.look path = .ok (.file content)) :
    path.endsWithSeparator = false := by
  rw [look] at shown
  cases reached : tree.resolve path with
  | error error => simp [reached, bind, Except.bind] at shown
  | ok place =>
    simp only [reached, bind, Except.bind] at shown
    split at shown
    · simp [throw, throwThe, MonadExceptOf.throw] at shown
    · simp [pure, Except.pure] at shown
    · split at shown
      · simp [throw, throwThe, MonadExceptOf.throw] at shown
      · rename_i unseparated
        simpa using unseparated

/-- New directories hide no file. -/
theorem Grown.look (grown : Grown before after) (shown : before.look path = .ok (.file content)) :
    after.look path = .ok (.file content) := by
  have unseparated := unseparated_of_look shown
  rcases (look_eq_file_iff unseparated).1 shown with ⟨place, reached, standing⟩
  have stillReached := resolve_of_directoriesStand grown.directoriesStand reached
  exact (look_eq_file_iff unseparated).2 ⟨place, stillReached, grown.kept place _ standing⟩

end FileTree

open FileTree

theorem SavedAs.keptAt {before after : FileTree} {path : Path} {text : String} {place : Place}
    (saved : SavedAs before after path text)
    (different : place ≠ path.target before.workingDirectory) : KeptAt before after place :=
  ⟨fun node => saved.kept place node different, saved.added place different⟩

theorem SavedAs.content? {before after : FileTree} {path : Path} {text : String}
    (saved : SavedAs before after path text) (unseparated : path.endsWithSeparator = false) :
    after.content? path = some text.toUTF8 :=
  content?_of_look saved.shown unseparated

namespace Artifact

variable {tree after : FileTree} {path : Path} {text : String} {place : Place}

/-- Saving that fails has created directories at most. -/
theorem grown_of_saveText_eq_error {error : ArtifactError}
    (failed : saveText tree path text = (after, .error error)) : Grown tree after := by
  have grown := grown_prepareParent tree path
  rw [saveText] at failed
  split at failed <;> rename_i prepared
  · rw [prepared, (Prod.mk.inj failed).1] at grown
    exact grown
  · rw [prepared] at grown
    split at failed
    · simp at failed
    · rw [(Prod.mk.inj failed).1] at grown
      exact grown

theorem workingDirectory_saveText (tree : FileTree) (path : Path) (text : String) :
    (saveText tree path text).1.workingDirectory = tree.workingDirectory := by
  rcases saved : saveText tree path text with ⟨after, error | _⟩
  · exact (grown_of_saveText_eq_error saved).workingDirectory
  · exact (savedAs_of_saveText saved).workingDirectory

/-- Saving a text keeps every other place, whether it fails or not. -/
theorem keptAt_saveText (different : place ≠ path.target tree.workingDirectory) :
    KeptAt tree (saveText tree path text).1 place := by
  rcases saved : saveText tree path text with ⟨after, error | _⟩
  · exact (grown_of_saveText_eq_error saved).keptAt place
  · exact (savedAs_of_saveText saved).keptAt different

end Artifact

/-! ### What is not on the way -/

/-- The directories on the way to a file: its parent, the parent of that, and so on. -/
inductive Path.OnWay (path : Path) : Path → Prop
  | parent {directory : Path} (named : path.parent? = some directory) : OnWay path directory
  | higher {directory above : Path} (below : OnWay path directory)
      (named : directory.parent? = some above) : OnWay path above

theorem Path.OnWay.of_parent {path parent above : Path} (named : path.parent? = some parent)
    (higher : parent.OnWay above) : path.OnWay above := by
  induction higher with
  | parent top => exact .higher (.parent named) top
  | higher below top ih => exact .higher ih top

namespace FileTree

variable {tree after : FileTree} {place other : Place} {path : Path}

theorem node?_put_of_ne (different : other ≠ place) (node : FileNode) :
    (tree.put place node).node? other = tree.node? other := by
  by_cases admitted : tree.Admits place
  · rw [node?_put admitted, if_neg different]
  · rw [put, dif_neg admitted]

theorem node?_of_createDirectory (created : tree.createDirectory path = .ok after)
    (different : place ≠ path.target tree.workingDirectory) :
    after.node? place = tree.node? place := by
  rw [createDirectory] at created
  cases reached : tree.resolve path with
  | error error => simp [reached, bind, Except.bind] at created
  | ok target =>
    simp only [reached, bind, Except.bind] at created
    split at created
    · simp [throw, throwThe, MonadExceptOf.throw] at created
    · simp only [pure, Except.pure, Except.ok.injEq] at created
      rw [← resolve_eq_ok reached] at different
      rw [← created, node?_put_of_ne different]

theorem node?_ensureDirectory (different : place ≠ path.target tree.workingDirectory) :
    (tree.ensureDirectory path).1.node? place = tree.node? place := by
  rw [ensureDirectory]
  split
  · rename_i created
    exact node?_of_createDirectory created different
  · split <;> rfl

/-- Creating a directory with its parents touches no other place. -/
theorem node?_createDirectoriesWithin (fuel : Nat) (tree : FileTree) (path : Path)
    (different : place ≠ path.target tree.workingDirectory)
    (outside : ∀ directory, path.OnWay directory →
      place ≠ directory.target tree.workingDirectory) :
    (createDirectoriesWithin fuel tree path).1.node? place = tree.node? place := by
  induction fuel generalizing tree path with
  | zero => rfl
  | succ fuel ih =>
    rw [createDirectoriesWithin]
    split
    · rfl
    split
    · rename_i created
      exact node?_of_createDirectory created different
    · split
      · rfl
      · rename_i parent named
        have parentKept := ih tree parent (outside parent (.parent named))
          fun directory higher => outside directory (.of_parent named higher)
        have grown := grown_createDirectoriesWithin fuel tree parent
        split
        · rename_i reached created
          rw [created] at parentKept grown
          rw [← grown.workingDirectory] at different
          rw [node?_ensureDirectory different, parentKept]
        · rename_i reached error failed
          rwa [failed] at parentKept
    · split <;> rfl

end FileTree

namespace Artifact

variable {tree : FileTree} {path : Path} {place : Place}

theorem node?_prepareParent
    (outside : ∀ directory, path.OnWay directory →
      place ≠ directory.target tree.workingDirectory) :
    (prepareParent tree path).1.node? place = tree.node? place := by
  rw [prepareParent]
  split
  · rfl
  split
  · rfl
  · rename_i parent named _
    have kept := node?_createDirectoriesWithin (parent.text.length + 1) tree parent
      (outside parent (.parent named)) fun directory higher =>
        outside directory (.of_parent named higher)
    change (tree.createDirectories parent).1.node? place = tree.node? place at kept
    split <;> rename_i created <;> rwa [created] at kept

/-- Saving a file touches its place and those of the directories on the way to it. -/
theorem node?_saveText (text : String)
    (different : place ≠ path.target tree.workingDirectory)
    (outside : ∀ directory, path.OnWay directory →
      place ≠ directory.target tree.workingDirectory) :
    (saveText tree path text).1.node? place = tree.node? place := by
  have kept := node?_prepareParent outside
  have grown := grown_prepareParent tree path
  rw [saveText]
  split <;> rename_i prepared
  · rwa [prepared] at kept
  · rw [prepared] at kept grown
    split
    · rename_i wrote
      rcases writeText_eq_ok_iff.1 wrote with ⟨-, target, reached, _, rfl⟩
      rw [resolve_eq_ok reached, grown.workingDirectory, node?_put_of_ne different, kept]
    · exact kept

end Artifact

end NodeLocale
