import NodeLocale.FileTree
import NodeLocale.Proofs.Files.ChildPath

/-!
# Resolving paths

Where a path leads does not depend on the tree: the tree only decides whether the way is open,
and it is open as long as the directories on it stand. So a path that leads to a place keeps
leading there while files are written and directories are created, and two paths that end in
different plain names behind the same beginning lead to different places in every tree.
-/

namespace NodeLocale

/-- The place to which a path leads from a directory if every step can be taken. -/
def Path.target (path : Path) (start : Place) : Place :=
  path.segments.foldl FileTree.step (if path.isAbsolute then [] else start)

theorem Path.target_child (path : Path) {name : String} (plain : IsPlainName name)
    (start : Place) : (path.child name).target start = path.target start ++ [name] := by
  rw [target, target, segments_child path plain, isAbsolute_child path plain, List.foldl_append]
  simp [FileTree.step, plain.notHere, plain.notUp]

/-- Two dots lead back out of the directory that they are appended to. -/
theorem Path.target_child_up (path : Path) (start : Place) :
    (path.child "..").target start = (path.target start).dropLast := by
  rw [target, target, segments_child_of_single path (by decide) (by decide),
    isAbsolute_child_of_relative path (by decide), List.foldl_append]
  rfl

namespace FileTree

/-- Whether all directories of a tree stand in another one as well. -/
structure DirectoriesStand (before after : FileTree) : Prop where
  workingDirectory : after.workingDirectory = before.workingDirectory
  stand : ∀ place, before.node? place = some .directory → after.node? place = some .directory

variable {tree before after : FileTree}

theorem DirectoriesStand.refl (tree : FileTree) : DirectoriesStand tree tree :=
  ⟨rfl, fun _ standing => standing⟩

theorem DirectoriesStand.trans {last : FileTree} (first : DirectoriesStand before after)
    (second : DirectoriesStand after last) : DirectoriesStand before last :=
  ⟨second.workingDirectory.trans first.workingDirectory,
    fun place standing => second.stand place (first.stand place standing)⟩

/-! ### Following the steps of a path -/

theorem follow_append (tree : FileTree) (front back : List String) (place : Place) :
    tree.follow place (front ++ back) =
      (tree.follow place front).bind fun reached => tree.follow reached back := by
  induction front generalizing place with
  | nil => rfl
  | cons segment rest ih =>
    rw [List.cons_append, follow, follow]
    cases tree.node? place with
    | none => rfl
    | some node =>
      cases node with
      | file content => rfl
      | directory =>
        by_cases long : 255 < segment.utf8ByteSize
        · simp [long, Except.bind]
        · simp only [long, if_false]
          exact ih (step place segment)

theorem follow_eq_ok {segments : List String} {place last : Place}
    (reached : tree.follow place segments = .ok last) : last = segments.foldl step place := by
  induction segments generalizing place with
  | nil =>
    rw [follow, Except.ok.injEq] at reached
    exact reached.symm
  | cons segment rest ih =>
    rw [follow] at reached
    split at reached
    · simp at reached
    · simp at reached
    · split at reached
      · simp at reached
      · exact ih reached

theorem follow_of_directoriesStand (kept : DirectoriesStand before after)
    {segments : List String} {place last : Place}
    (reached : before.follow place segments = .ok last) :
    after.follow place segments = .ok last := by
  induction segments generalizing place with
  | nil => exact reached
  | cons segment rest ih =>
    rw [follow] at reached ⊢
    cases standing : before.node? place with
    | none => simp [standing] at reached
    | some node =>
      cases node with
      | file content => simp [standing] at reached
      | directory =>
        rw [standing] at reached
        rw [kept.stand place standing]
        by_cases long : 255 < segment.utf8ByteSize
        · simp [long] at reached
        · simp only [long, if_false] at reached ⊢
          exact ih reached

/-! ### Resolving a path -/

/-- A path is resolved by following its segments, unless its text stands in the way. -/
theorem resolve_eq_ok_iff {path : Path} {place : Place} :
    tree.resolve path = .ok place ↔
      path.text ≠ "" ∧ path.text.toList.contains '\x00' = false ∧
        path.text.utf8ByteSize ≤ 4095 ∧
        tree.follow (if path.isAbsolute then [] else tree.workingDirectory) path.segments =
          .ok place := by
  rw [resolve]
  by_cases empty : path.text = ""
  · simp [empty]
  cases null : path.text.toList.contains '\x00' with
  | true => simp [empty]
  | false =>
    by_cases long : 4095 < path.text.utf8ByteSize
    · simp [empty, long, Nat.not_le.2 long]
    · simp [empty, long, Nat.le_of_not_lt long]

theorem resolve_eq_ok {path : Path} {place : Place} (reached : tree.resolve path = .ok place) :
    place = path.target tree.workingDirectory :=
  follow_eq_ok (resolve_eq_ok_iff.1 reached).2.2.2

theorem resolve_of_directoriesStand (kept : DirectoriesStand before after) {path : Path}
    {place : Place} (reached : before.resolve path = .ok place) :
    after.resolve path = .ok place := by
  rcases resolve_eq_ok_iff.1 reached with ⟨nonempty, noNull, short, followed⟩
  rw [← kept.workingDirectory] at followed
  exact resolve_eq_ok_iff.2
    ⟨nonempty, noNull, short, follow_of_directoriesStand kept followed⟩

/-- A path that leads to a child leads through its directory. -/
theorem resolve_child_eq_ok {path : Path} {name : String} (plain : Path.IsPlainName name)
    (nonempty : path.text ≠ "") {place : Place}
    (reached : tree.resolve (path.child name) = .ok place) :
    ∃ directory, tree.resolve path = .ok directory ∧
      tree.node? directory = some .directory ∧ place = directory ++ [name] := by
  have text := Path.toList_child path plain
  rcases resolve_eq_ok_iff.1 reached with ⟨-, noNull, short, followed⟩
  rw [Path.segments_child path plain, Path.isAbsolute_child path plain, follow_append] at followed
  have noNullBefore : path.text.toList.contains '\x00' = false := by
    rw [text] at noNull
    simp_all
  have shortBefore : path.text.utf8ByteSize ≤ 4095 := by
    have whole : (path.child name).text = path.text ++ String.ofList (path.gap ++ name.toList) := by
      apply String.ext
      simp [text]
    rw [whole, String.utf8ByteSize_append] at short
    omega
  cases start : tree.follow (if path.isAbsolute then [] else tree.workingDirectory)
      path.segments with
  | error error => simp [start, Except.bind] at followed
  | ok directory =>
    refine ⟨directory, resolve_eq_ok_iff.2 ⟨nonempty, noNullBefore, shortBefore, start⟩, ?_⟩
    rw [start] at followed
    simp only [Except.bind, follow] at followed
    split at followed
    · simp at followed
    · simp at followed
    · rename_i standing
      refine ⟨standing, ?_⟩
      split at followed
      · simp at followed
      · rw [Except.ok.injEq] at followed
        rw [← followed]
        simp [step, plain.notHere, plain.notUp]

/-- A child of a directory is reached through it if it is reached in any tree: only its text could
stand in the way. -/
theorem resolve_child {other : FileTree} {path : Path} {name : String}
    (plain : Path.IsPlainName name) {place directory : Place}
    (elsewhere : other.resolve (path.child name) = .ok place)
    (reached : tree.resolve path = .ok directory)
    (standing : tree.node? directory = some .directory) :
    tree.resolve (path.child name) = .ok (directory ++ [name]) := by
  rcases resolve_eq_ok_iff.1 elsewhere with ⟨nonempty, noNull, short, followedElsewhere⟩
  rcases resolve_eq_ok_iff.1 reached with ⟨-, -, -, followed⟩
  refine resolve_eq_ok_iff.2 ⟨nonempty, noNull, short, ?_⟩
  rw [Path.segments_child path plain, Path.isAbsolute_child path plain, follow_append]
    at followedElsewhere ⊢
  have fits : ¬255 < name.utf8ByteSize := by
    intro long
    cases start : other.follow (if path.isAbsolute then [] else other.workingDirectory)
        path.segments with
    | error error => simp [start, Except.bind] at followedElsewhere
    | ok there =>
      simp only [start, Except.bind, follow, if_pos long] at followedElsewhere
      split at followedElsewhere <;> simp at followedElsewhere
  rw [followed]
  simp [Except.bind, follow, standing, fits, step, plain.notHere, plain.notUp]

end FileTree

end NodeLocale
