import NodeLocale.Localization.Run
import NodeLocale.Proofs.Files.Contents

/-!
# Removing files

Removing a file frees its place and leaves every other place as it is. Directories stay, so paths
lead where they led before: a file that is removed is gone for good, and a file at another
place is shown as before.
-/

namespace NodeLocale

open FileTree

/-- Whether a tree is what remains of another one when files at some places are removed. -/
structure Removed (before after : FileTree) (places : List Place) : Prop where
  workingDirectory : after.workingDirectory = before.workingDirectory
  elsewhere : ∀ place, place ∉ places → after.node? place = before.node? place
  fewer : ∀ place node, after.node? place = some node → before.node? place = some node
  directories : ∀ place, before.node? place = some .directory →
    after.node? place = some .directory

namespace Removed

variable {before after last : FileTree} {places others : List Place} {path : Path}

theorem refl (tree : FileTree) (places : List Place) : Removed tree tree places :=
  ⟨rfl, fun _ _ => rfl, fun _ _ standing => standing, fun _ standing => standing⟩

theorem trans (first : Removed before after places) (second : Removed after last others) :
    Removed before last (places ++ others) := by
  refine ⟨second.workingDirectory.trans first.workingDirectory, fun place outside => ?_,
    fun place node standing => first.fewer place node (second.fewer place node standing),
    fun place standing => second.directories place (first.directories place standing)⟩
  rw [List.mem_append, not_or] at outside
  exact (second.elsewhere place outside.2).trans (first.elsewhere place outside.1)

theorem directoriesStand (removed : Removed before after places) :
    DirectoriesStand before after :=
  ⟨removed.workingDirectory, removed.directories⟩

theorem directoriesStood (removed : Removed before after places) :
    DirectoriesStand after before :=
  ⟨removed.workingDirectory.symm, fun place standing => removed.fewer place _ standing⟩

/-- A file at another place is shown as before. -/
theorem look (removed : Removed before after places) (unseparated : path.endsWithSeparator = false)
    (outside : path.target before.workingDirectory ∉ places) {content : ByteArray}
    (shown : before.look path = .ok (.file content)) :
    after.look path = .ok (.file content) := by
  obtain ⟨place, reached, standing⟩ := (look_eq_file_iff unseparated).1 shown
  refine (look_eq_file_iff unseparated).2
    ⟨place, resolve_of_directoriesStand removed.directoriesStand reached, ?_⟩
  rw [removed.elsewhere place (resolve_eq_ok reached ▸ outside), standing]

/-- A file that is gone does not come back. -/
theorem isFile_eq_false (removed : Removed before after places)
    (unseparated : path.endsWithSeparator = false) (gone : before.isFile path = false) :
    after.isFile path = false := by
  rw [Bool.eq_false_iff] at gone ⊢
  intro back
  obtain ⟨content, shown⟩ := isFile_iff.1 back
  obtain ⟨place, reached, standing⟩ := (look_eq_file_iff unseparated).1 shown
  refine gone (isFile_iff.2 ⟨content, (look_eq_file_iff unseparated).2 ⟨place, ?_, ?_⟩⟩)
  · exact resolve_of_directoriesStand removed.directoriesStood reached
  · exact removed.fewer place _ standing

end Removed

namespace LocalizationRun

variable {tree : FileTree} {path : Path}

/-- Removing one file, or passing over it. -/
theorem removed_removeFile (tree : FileTree) (path : Path) :
    Removed tree ((tree.removeFile path).toOption.getD tree)
      [path.target tree.workingDirectory] := by
  cases gone : tree.removeFile path with
  | error error => exact .refl tree _
  | ok after =>
    rw [removeFile] at gone
    cases reached : tree.resolve path with
    | error error => simp [reached, bind, Except.bind] at gone
    | ok place =>
      simp only [reached, bind, Except.bind] at gone
      split at gone
      · simp [throw, throwThe, MonadExceptOf.throw] at gone
      · simp [throw, throwThe, MonadExceptOf.throw] at gone
      · rename_i content file
        split at gone
        · simp [throw, throwThe, MonadExceptOf.throw] at gone
        · simp only [pure, Except.pure, Except.ok.injEq] at gone
          subst gone
          obtain rfl := resolve_eq_ok reached
          refine ⟨rfl, fun place outside => ?_, fun place node standing => ?_,
            (directoriesStand_prune_file file).stand⟩
          · change (tree.prune _).node? place = _
            rw [node?_prune_file file, if_neg (by simpa using outside)]
          · change (tree.prune _).node? place = _ at standing
            rw [node?_prune_file file] at standing
            split at standing
            · simp at standing
            · exact standing

theorem isFile_removeFile (unseparated : path.endsWithSeparator = false) :
    ((tree.removeFile path).toOption.getD tree).isFile path = false := by
  rw [Bool.eq_false_iff]
  intro still
  obtain ⟨content, shown⟩ := isFile_iff.1 still
  obtain ⟨place, reached, standing⟩ := (look_eq_file_iff unseparated).1 shown
  have removed := removed_removeFile tree path
  have reachedBefore := resolve_of_directoriesStand removed.directoriesStood reached
  have file := removed.fewer place _ standing
  have gone : tree.removeFile path = .ok (tree.prune place) := by
    simp [removeFile, reachedBefore, file, unseparated, bind, Except.bind, pure, Except.pure]
  rw [gone] at standing
  change (tree.prune place).node? place = _ at standing
  simp [node?_prune_file file] at standing

/-- Removing files frees at most their places. -/
theorem removed_removeFiles (tree : FileTree) (paths : List Path) :
    Removed tree (removeFiles tree paths)
      (paths.map fun path => path.target tree.workingDirectory) := by
  induction paths generalizing tree with
  | nil => exact .refl tree []
  | cons path rest ih =>
    have first := removed_removeFile tree path
    have others := ih ((tree.removeFile path).toOption.getD tree)
    rw [first.workingDirectory] at others
    exact first.trans others

/-- Files that were to be removed are gone. -/
theorem isFile_removeFiles {paths : List Path}
    (unseparated : ∀ path ∈ paths, path.endsWithSeparator = false) (tree : FileTree) :
    ∀ path ∈ paths, (removeFiles tree paths).isFile path = false := by
  induction paths generalizing tree with
  | nil => simp
  | cons path rest ih =>
    intro other member
    rcases List.mem_cons.1 member with rfl | later
    · exact (removed_removeFiles _ rest).isFile_eq_false (unseparated other member)
        (isFile_removeFile (unseparated other member))
    · exact ih (fun path later => unseparated path (List.mem_cons_of_mem _ later)) _ other later

end LocalizationRun

end NodeLocale
