import NodeLocale.Artifact
import NodeLocale.Proofs.Files.Contents

/-!
# Saving artifacts

Saving an artifact creates directories at free places, if any are missing, and writes one file,
whatever its path. Where the file can be written at once, nothing else changes, and saving what is
there already changes nothing at all. The artifacts of a plugin have a plain name in a directory
that has a plain name itself.
-/

namespace NodeLocale

namespace FileTree

variable {tree before after : FileTree}

/-! ### Creating directories -/

/-- Whether a tree differs from an earlier one by new directories only. -/
structure Grown (before after : FileTree) : Prop where
  workingDirectory : after.workingDirectory = before.workingDirectory
  kept : ∀ place node, before.node? place = some node → after.node? place = some node
  added : ∀ place, before.node? place = none →
    after.node? place = none ∨ after.node? place = some .directory

theorem Grown.refl (tree : FileTree) : Grown tree tree :=
  ⟨rfl, fun _ _ standing => standing, fun _ free => Or.inl free⟩

theorem Grown.trans {last : FileTree} (first : Grown before after) (second : Grown after last) :
    Grown before last := by
  refine ⟨second.workingDirectory.trans first.workingDirectory,
    fun place node standing => second.kept place node (first.kept place node standing),
    fun place free => ?_⟩
  rcases first.added place free with stillFree | created
  · exact second.added place stillFree
  · exact Or.inr (second.kept place _ created)

theorem grown_put_directory {place : Place} (free : tree.node? place = none) :
    Grown tree (tree.put place .directory) := by
  by_cases admitted : tree.Admits place
  · refine ⟨workingDirectory_put _ _ _, fun other node standing => ?_, fun other absent => ?_⟩
    · have different : other ≠ place := by
        rintro rfl
        simp [free] at standing
      rw [node?_put admitted, if_neg different, standing]
    · rw [node?_put admitted]
      by_cases same : other = place
      · simp [same]
      · simp [same, absent]
  · rw [put, dif_neg admitted]
    exact Grown.refl tree

theorem grown_of_createDirectory {path : Path} (created : tree.createDirectory path = .ok after) :
    Grown tree after := by
  rw [createDirectory] at created
  cases place : tree.resolve path with
  | error error => simp [place, bind, Except.bind] at created
  | ok place =>
    simp only [place, bind, Except.bind] at created
    split at created
    · simp [throw, throwThe, MonadExceptOf.throw] at created
    · rename_i free
      simp only [pure, Except.pure, Except.ok.injEq] at created
      exact created ▸ grown_put_directory free

theorem grown_ensureDirectory (tree : FileTree) (path : Path) :
    Grown tree (tree.ensureDirectory path).1 := by
  rw [ensureDirectory]
  split
  · rename_i created
    exact grown_of_createDirectory created
  · split <;> exact Grown.refl tree

theorem grown_createDirectoriesWithin (fuel : Nat) (tree : FileTree) (path : Path) :
    Grown tree (createDirectoriesWithin fuel tree path).1 := by
  induction fuel generalizing tree path with
  | zero => exact Grown.refl tree
  | succ fuel ih =>
    rw [createDirectoriesWithin]
    split
    · exact Grown.refl tree
    split
    · rename_i created
      exact grown_of_createDirectory created
    · split
      · exact Grown.refl tree
      · rename_i parent _
        have grownParent := ih tree parent
        split
        · rename_i reached created
          rw [created] at grownParent
          exact grownParent.trans (grown_ensureDirectory reached path)
        · rename_i reached error failed
          rwa [failed] at grownParent
    · split <;> exact Grown.refl tree

theorem grown_createDirectories (tree : FileTree) (path : Path) :
    Grown tree (tree.createDirectories path).1 :=
  grown_createDirectoriesWithin _ tree path

/-- A directory that exists is not created again. -/
theorem createDirectories_of_look {path : Path} (exists_ : tree.look path = .ok .directory) :
    tree.createDirectories path = (tree, .ok ()) := by
  obtain ⟨place, reached, standing⟩ := look_eq_directory_iff.1 exists_
  have refused : tree.createDirectory path = .error .alreadyExists := by
    simp [createDirectory, reached, standing, bind, Except.bind, throw, throwThe,
      MonadExceptOf.throw]
  rw [createDirectories, createDirectoriesWithin]
  split
  · rfl
  · rw [refused]
    simp only [isDirectory_iff.2 exists_, if_true]

/-! ### Writing a file -/

/-- Whether a file can be written: its path leads to a place where no directory stands. -/
def canWrite (tree : FileTree) (path : Path) : Bool :=
  match tree.resolve path with
  | .ok place => tree.node? place != some .directory
  | .error _ => false

theorem canWrite_iff {path : Path} :
    tree.canWrite path = true ↔
      ∃ place, tree.resolve path = .ok place ∧ tree.node? place ≠ some .directory := by
  rw [canWrite]
  cases tree.resolve path <;> simp

theorem canWrite_put_file {other : Path} (place : Place) (content : ByteArray)
    (writable : tree.canWrite other = true) :
    (tree.put place (.file content)).canWrite other = true := by
  obtain ⟨target, reached, free⟩ := canWrite_iff.1 writable
  refine canWrite_iff.2 ⟨target,
    resolve_of_directoriesStand (directoriesStand_put tree place _) reached, ?_⟩
  by_cases admitted : tree.Admits place
  · rw [node?_put admitted]
    split
    · simp
    · exact free
  · rwa [put, dif_neg admitted]

theorem writeText_eq_ok_iff {path : Path} {text : String} :
    tree.writeText path text = .ok after ↔
      path.endsWithSeparator = false ∧ ∃ place, tree.resolve path = .ok place ∧
        tree.node? place ≠ some .directory ∧ after = tree.put place (.file text.toUTF8) := by
  rw [writeText, writeBytes]
  cases tree.resolve path with
  | error error => simp [bind, Except.bind]
  | ok place =>
    cases standing : tree.node? place with
    | none =>
      cases separated : path.endsWithSeparator <;>
        simp [standing, bind, Except.bind, pure, Except.pure, throw, throwThe,
          MonadExceptOf.throw, eq_comm]
    | some node =>
      cases node with
      | directory =>
        simp [standing, bind, Except.bind, throw, throwThe, MonadExceptOf.throw]
      | file content =>
        cases separated : path.endsWithSeparator <;>
          simp [standing, bind, Except.bind, pure, Except.pure, throw, throwThe,
            MonadExceptOf.throw, eq_comm]

end FileTree

/-- What saving a text under a path does to a tree. -/
structure SavedAs (before after : FileTree) (path : Path) (text : String) : Prop where
  workingDirectory : after.workingDirectory = before.workingDirectory
  shown : after.look path = .ok (.file text.toUTF8)
  noDirectory : before.node? (path.target before.workingDirectory) ≠ some .directory
  kept : ∀ place node, place ≠ path.target before.workingDirectory →
    before.node? place = some node → after.node? place = some node
  added : ∀ place, place ≠ path.target before.workingDirectory → before.node? place = none →
    after.node? place = none ∨ after.node? place = some .directory

/-- Whether a path is a child of a directory that has a plain name, as those of artifacts are. -/
def Path.IsArtifact (path : Path) : Prop :=
  ∃ (base : Path) (directory name : String), Path.IsPlainName directory ∧
    Path.IsPlainName name ∧ path = (base.child directory).child name

theorem Path.IsArtifact.unseparated {path : Path} (artifact : path.IsArtifact) :
    path.endsWithSeparator = false := by
  obtain ⟨base, directory, name, _, plain, rfl⟩ := artifact
  exact endsWithSeparator_child _ plain

namespace Artifact

variable {tree before after : FileTree} {path : Path} {text : String}

open FileTree

/-- The directory of an artifact is there as soon as the path of the artifact resolves. -/
theorem prepareParent_of_resolve (artifact : path.IsArtifact) {place : Place}
    (reached : tree.resolve path = .ok place) : prepareParent tree path = (tree, .ok ()) := by
  obtain ⟨base, directory, name, plainDirectory, plain, rfl⟩ := artifact
  have nonempty := Path.text_child_ne_empty base plainDirectory
  obtain ⟨parent, parentReached, standing, _⟩ := resolve_child_eq_ok plain nonempty reached
  have shown := look_eq_directory_iff.2 ⟨parent, parentReached, standing⟩
  rw [prepareParent, Path.parent?_child_child base plainDirectory plain]
  simp [nonempty, createDirectories_of_look shown]

theorem grown_prepareParent (tree : FileTree) (path : Path) :
    Grown tree (prepareParent tree path).1 := by
  rw [prepareParent]
  split
  · exact Grown.refl tree
  split
  · exact Grown.refl tree
  · rename_i parent _ _
    have grown := grown_createDirectories tree parent
    split <;> rename_i created <;> rwa [created] at grown

/-- Saving an artifact where a file can be written writes that file and nothing else. -/
theorem saveText_of_canWrite (artifact : path.IsArtifact) (writable : tree.canWrite path = true)
    (text : String) :
    saveText tree path text =
      (tree.put (path.target tree.workingDirectory) (.file text.toUTF8), .ok ()) := by
  obtain ⟨place, reached, free⟩ := canWrite_iff.1 writable
  have written : tree.writeText path text = .ok (tree.put place (.file text.toUTF8)) :=
    writeText_eq_ok_iff.2 ⟨artifact.unseparated, place, reached, free, rfl⟩
  rw [saveText, prepareParent_of_resolve artifact reached]
  simp only [written, resolve_eq_ok reached]

/-- Saving what is there already changes nothing. -/
theorem saveText_of_look (artifact : path.IsArtifact)
    (shown : tree.look path = .ok (.file text.toUTF8)) :
    saveText tree path text = (tree, .ok ()) := by
  obtain ⟨place, reached, standing⟩ := (look_eq_file_iff artifact.unseparated).1 shown
  have writable : tree.canWrite path = true :=
    canWrite_iff.2 ⟨place, reached, by simp [standing]⟩
  rw [saveText_of_canWrite artifact writable, ← resolve_eq_ok reached, put_of_node? standing]

/-- A text is written to a tree that differs from an earlier one by new directories only. -/
theorem savedAs_of_writeText {between : FileTree} (grown : Grown before between)
    (wrote : between.writeText path text = .ok after) : SavedAs before after path text := by
  obtain ⟨unseparated, place, reached, free, rfl⟩ := writeText_eq_ok_iff.1 wrote
  have admitted := admits_of_resolve reached free
  have target : place = path.target before.workingDirectory := by
    rw [resolve_eq_ok reached, grown.workingDirectory]
  refine ⟨by rw [workingDirectory_put, grown.workingDirectory], ?_, ?_, ?_, ?_⟩
  · refine (look_eq_file_iff unseparated).2 ⟨place, ?_, ?_⟩
    · exact resolve_of_directoriesStand (directoriesStand_put _ _ _) reached
    · rw [node?_put admitted, if_pos rfl]
  · rw [← target]
    exact fun standing => free (grown.kept place _ standing)
  · intro other node different standing
    rw [← target] at different
    rw [node?_put admitted, if_neg different]
    exact grown.kept other node standing
  · intro other different absent
    rw [← target] at different
    rw [node?_put admitted, if_neg different]
    exact grown.added other absent

theorem savedAs_of_saveText (saved : saveText before path text = (after, .ok ())) :
    SavedAs before after path text := by
  rw [saveText] at saved
  have grown := grown_prepareParent before path
  split at saved
  · simp at saved
  rename_i grownTree prepared
  rw [prepared] at grown
  split at saved
  · rename_i written wrote
    simp only [Prod.mk.injEq, and_true] at saved
    subst saved
    exact savedAs_of_writeText grown wrote
  · simp at saved

end Artifact

/-- Whether no file stands where a path leads. -/
def FileTree.HasNoFile (tree : FileTree) (path : Path) : Prop :=
  ∀ content, tree.node? (path.target tree.workingDirectory) ≠ some (.file content)

theorem FileTree.HasNoFile.isFile_eq_false {tree : FileTree} {path : Path}
    (none : tree.HasNoFile path) (unseparated : path.endsWithSeparator = false) :
    tree.isFile path = false := by
  cases found : tree.isFile path with
  | false => rfl
  | true =>
    obtain ⟨content, shown⟩ := isFile_iff.1 found
    obtain ⟨place, reached, standing⟩ := (look_eq_file_iff unseparated).1 shown
    exact absurd (resolve_eq_ok reached ▸ standing) (none content)

namespace SavedAs

variable {before after : FileTree} {path other : Path} {text : String}

open FileTree

theorem directoriesStand (saved : SavedAs before after path text) :
    DirectoriesStand before after := by
  refine ⟨saved.workingDirectory, fun place standing => ?_⟩
  have different : place ≠ path.target before.workingDirectory := by
    rintro rfl
    exact saved.noDirectory standing
  exact saved.kept place _ different standing

/-- Files at other places are shown as before. -/
theorem look_of_ne (saved : SavedAs before after path text)
    (unseparated : other.endsWithSeparator = false)
    (different : other.target before.workingDirectory ≠ path.target before.workingDirectory)
    {content : ByteArray} (shown : before.look other = .ok (.file content)) :
    after.look other = .ok (.file content) := by
  obtain ⟨place, reached, standing⟩ := (look_eq_file_iff unseparated).1 shown
  refine (look_eq_file_iff unseparated).2 ⟨place,
    resolve_of_directoriesStand saved.directoriesStand reached, ?_⟩
  exact saved.kept place _ (resolve_eq_ok reached ▸ different) standing

/-- No file appears at another place. -/
theorem hasNoFile_of_ne (saved : SavedAs before after path text)
    (different : other.target before.workingDirectory ≠ path.target before.workingDirectory)
    (none : before.HasNoFile other) : after.HasNoFile other := by
  intro content appeared
  rw [saved.workingDirectory] at appeared
  cases standing : before.node? (other.target before.workingDirectory) with
  | none =>
    rcases saved.added _ different standing with free | created
    · simp [free] at appeared
    · simp [created] at appeared
  | some node =>
    rw [saved.kept _ node different standing, Option.some.injEq] at appeared
    exact none content (appeared ▸ standing)

end SavedAs

end NodeLocale
