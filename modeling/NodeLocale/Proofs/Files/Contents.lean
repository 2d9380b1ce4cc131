import Mathlib.Data.List.Induction
import NodeLocale.Proofs.Files.Resolution

/-!
# Contents of a file tree

What stands at a place after a node was put somewhere or a file was removed, and what a path
shows then. Nothing is below a file, so removing a file removes nothing else.
-/

namespace NodeLocale.FileTree

variable {tree before after : FileTree}

@[simp]
theorem node?_nil (tree : FileTree) : tree.node? [] = some .directory := rfl

theorem node?_eq_get? {place : Place} (inner : place ≠ []) :
    tree.node? place = tree.nodes.get? place := by
  simp [node?, Place.node?, inner]

/-- Whatever stands at a place stands in a directory. -/
theorem node?_dropLast {place : Place} {node : FileNode} (standing : tree.node? place = some node) :
    tree.node? place.dropLast = some .directory := by
  by_cases root : place = []
  · simp [root]
  · rw [node?_eq_get? root] at standing
    exact tree.rooted place (OrderedMap.mem_keys_iff.2 (by simp [standing]))

/-- Nothing is below a place where no directory stands. -/
theorem node?_below {place other : Place} (noDirectory : tree.node? place ≠ some .directory)
    (below : place <+: other) (different : other ≠ place) : tree.node? other = none := by
  obtain ⟨names, rfl⟩ := below
  induction names using List.reverseRecOn with
  | nil => simp at different
  | append_singleton names name ih =>
    cases standing : tree.node? (place ++ (names ++ [name])) with
    | none => rfl
    | some node =>
      have parent := node?_dropLast standing
      rw [← List.append_assoc, List.dropLast_concat] at parent
      by_cases last : place ++ names = place
      · exact absurd (last ▸ parent) noDirectory
      · rw [ih last] at parent
        simp at parent

/-- Steps that end where no directory stands end in a directory. -/
theorem node?_dropLast_of_follow {segments : List String} {start last : Place}
    (moved : segments ≠ []) (reached : tree.follow start segments = .ok last)
    (free : tree.node? last ≠ some .directory) :
    tree.node? last.dropLast = some .directory := by
  induction segments generalizing start with
  | nil => exact absurd rfl moved
  | cons segment rest ih =>
    rw [follow] at reached
    split at reached
    · simp at reached
    · simp at reached
    rename_i standing
    split at reached
    · simp at reached
    cases rest with
    | cons next others => exact ih (by simp) reached
    | nil =>
      rw [follow, Except.ok.injEq] at reached
      subst reached
      rw [step] at free ⊢
      split at free
      · exact absurd standing free
      split at free
      · exact absurd (node?_dropLast standing) free
      · rename_i notHere notUp
        rwa [if_neg notHere, if_neg notUp, List.dropLast_concat]

/-- Whatever path leads to a place, a file may be put there unless it is a directory. -/
theorem admits_of_resolve {path : Path} {place : Place} (reached : tree.resolve path = .ok place)
    (free : tree.node? place ≠ some .directory) : tree.Admits place := by
  obtain ⟨nonempty, -, -, followed⟩ := resolve_eq_ok_iff.1 reached
  refine ⟨free, ?_⟩
  by_cases still : path.segments = []
  · cases absolute : path.isAbsolute with
    | false => exact absurd still (Path.segments_ne_nil nonempty absolute)
    | true =>
      rw [still, absolute, if_pos rfl, follow, Except.ok.injEq] at followed
      exact absurd (followed ▸ tree.node?_nil) free
  · exact node?_dropLast_of_follow still followed free

/-! ### Putting a node -/

@[simp]
theorem workingDirectory_put (tree : FileTree) (place : Place) (node : FileNode) :
    (tree.put place node).workingDirectory = tree.workingDirectory := by
  rw [put]
  split <;> rfl

theorem node?_put {place : Place} (admitted : tree.Admits place) (node : FileNode)
    (other : Place) :
    (tree.put place node).node? other = if other = place then some node else tree.node? other := by
  have inner : place ≠ [] := by
    rintro rfl
    exact admitted.1 tree.node?_nil
  rw [put, dif_pos admitted]
  by_cases root : other = []
  · simp [root, Ne.symm inner]
  · rw [node?_eq_get? root, node?_eq_get? root, OrderedMap.get?_insert]
    by_cases same : other = place
    · simp [same]
    · simp [same, Ne.symm same]

theorem directoriesStand_put (tree : FileTree) (place : Place) (node : FileNode) :
    DirectoriesStand tree (tree.put place node) := by
  refine ⟨workingDirectory_put tree place node, fun other standing => ?_⟩
  by_cases admitted : tree.Admits place
  · have different : other ≠ place := fun same => admitted.1 (same ▸ standing)
    rw [node?_put admitted, if_neg different, standing]
  · rwa [put, dif_neg admitted]

/-- Putting a file where the same file stands changes nothing. -/
theorem put_of_node? {place : Place} {content : ByteArray}
    (standing : tree.node? place = some (.file content)) :
    tree.put place (.file content) = tree := by
  have inner : place ≠ [] := by
    rintro rfl
    simp at standing
  rw [put]
  split
  · have same : tree.nodes.insert place (.file content) = tree.nodes :=
      OrderedMap.insert_of_get? (by rwa [← node?_eq_get? inner])
    simp only [same]
  · rfl

/-! ### Removing a file -/

@[simp]
theorem workingDirectory_prune (tree : FileTree) (place : Place) :
    (tree.prune place).workingDirectory = tree.workingDirectory := rfl

theorem node?_prune_file {place : Place} {content : ByteArray}
    (file : tree.node? place = some (.file content)) (other : Place) :
    (tree.prune place).node? other = if other = place then none else tree.node? other := by
  by_cases root : other = []
  · subst root
    have different : [] ≠ place := by
      rintro rfl
      simp at file
    simp [different]
  have pruned : (tree.prune place).node? other =
      if place.isPrefixOf other then none else tree.node? other := by
    rw [node?_eq_get? root, node?_eq_get? root, prune]
    simp only [OrderedMap.get?_filter_keys]
    cases place.isPrefixOf other <;> simp
  rw [pruned]
  by_cases below : place <+: other
  · rw [if_pos (List.isPrefixOf_iff_prefix.2 below)]
    by_cases same : other = place
    · rw [if_pos same]
    · rw [if_neg same, node?_below (by simp [file]) below same]
  · rw [if_neg (fun prefix_ => below (List.isPrefixOf_iff_prefix.1 prefix_))]
    have different : other ≠ place := by
      rintro rfl
      exact below (List.prefix_refl _)
    rw [if_neg different]

theorem directoriesStand_prune_file {place : Place} {content : ByteArray}
    (file : tree.node? place = some (.file content)) :
    DirectoriesStand tree (tree.prune place) := by
  refine ⟨rfl, fun other standing => ?_⟩
  have different : other ≠ place := by
    rintro rfl
    simp [file] at standing
  rw [node?_prune_file file, if_neg different, standing]

/-! ### Looking at a path -/

theorem look_eq_file_iff {path : Path} (unseparated : path.endsWithSeparator = false)
    {content : ByteArray} :
    tree.look path = .ok (.file content) ↔
      ∃ place, tree.resolve path = .ok place ∧ tree.node? place = some (.file content) := by
  rw [look]
  cases tree.resolve path with
  | error error => simp [bind, Except.bind]
  | ok place =>
    cases standing : tree.node? place with
    | none => simp [bind, Except.bind, standing, throw, throwThe, MonadExceptOf.throw]
    | some node =>
      cases node <;> simp [bind, Except.bind, standing, unseparated, pure, Except.pure]

theorem look_eq_directory_iff {path : Path} :
    tree.look path = .ok .directory ↔
      ∃ place, tree.resolve path = .ok place ∧ tree.node? place = some .directory := by
  rw [look]
  cases tree.resolve path with
  | error error => simp [bind, Except.bind]
  | ok place =>
    cases standing : tree.node? place with
    | none => simp [bind, Except.bind, standing, throw, throwThe, MonadExceptOf.throw]
    | some node =>
      cases node with
      | directory => simp [bind, Except.bind, standing, pure, Except.pure]
      | file content =>
        by_cases separated : path.endsWithSeparator <;>
          simp [bind, Except.bind, standing, separated, pure, Except.pure, throw, throwThe,
            MonadExceptOf.throw]

theorem isFile_iff {path : Path} :
    tree.isFile path = true ↔ ∃ content, tree.look path = .ok (.file content) := by
  rw [isFile]
  split <;> simp_all

theorem isDirectory_iff {path : Path} :
    tree.isDirectory path = true ↔ tree.look path = .ok .directory := by
  rw [isDirectory]
  split <;> simp_all

theorem readBytes_of_look {path : Path} {content : ByteArray}
    (shown : tree.look path = .ok (.file content)) : tree.readBytes path = .ok content := by
  simp [readBytes, shown, bind, Except.bind, pure, Except.pure]

/-- A text that was written is read back. -/
theorem readText_of_look {path : Path} {text : String}
    (shown : tree.look path = .ok (.file text.toUTF8)) : tree.readText path = .ok text := by
  have decoded : String.fromUTF8? text.toByteArray = some text := by
    rw [String.fromUTF8?, dif_pos text.isValidUTF8]
    rfl
  simp [readText, readBytes_of_look shown, decoded, bind, Except.bind, pure, Except.pure]

/-- What has a text is a file. -/
theorem isFile_of_readText {path : Path} {text : String}
    (read : tree.readText path = .ok text) : tree.isFile path = true := by
  rw [readText, readBytes] at read
  rw [isFile_iff]
  cases shown : tree.look path with
  | error error => simp [shown, bind, Except.bind] at read
  | ok node =>
    cases node with
    | directory =>
      simp [shown, bind, Except.bind, throw, throwThe, MonadExceptOf.throw] at read
    | file content => exact ⟨content, rfl⟩

end NodeLocale.FileTree
