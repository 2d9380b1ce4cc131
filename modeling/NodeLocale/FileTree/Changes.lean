import NodeLocale.FileTree

/-!
# Changes of a file tree

Two file trees differ by what was created, replaced and removed below a place. Directories count
as well; their paths end in a separator, so a directory that took the place of a file is both
created and removed.
-/

namespace NodeLocale

/-- A path below a place, and what stands there now. -/
structure FileChange where
  /-- The path; that of a directory ends in a separator. -/
  path : String
  /-- What stands there; nothing if it was removed. -/
  node : Option FileNode
deriving DecidableEq

namespace FileTree

/-- What stands below a place, by path and in the order of the paths. -/
def listing (tree : FileTree) (base : Place) : List (String × FileNode) :=
  ((tree.nodes.entries.filter fun entry => base.isPrefixOf entry.1 && entry.1 != base).map
    fun entry =>
      let path := String.intercalate "/" (entry.1.drop base.length)
      match entry.2 with
      | .directory => (path ++ "/", entry.2)
      | .file _ => (path, entry.2)).mergeSort fun left right => decide (left.1 ≤ right.1)

/-- What differs below a place, in the order of the paths. -/
def changes (base : Place) (before after : FileTree) : List FileChange :=
  let old := before.listing base
  let new := after.listing base
  let written := (new.filter fun entry => !old.contains entry).map fun entry =>
    ⟨entry.1, some entry.2⟩
  let removed := (old.filter fun entry => new.all fun other => other.1 != entry.1).map
    fun entry => ⟨entry.1, none⟩
  (written ++ removed).mergeSort fun left right => decide (left.path ≤ right.path)

/-- The tree that holds files with given texts, by path; parents are created, and what cannot be
written is left out. -/
def ofTexts (files : List (String × String)) : FileTree :=
  files.foldl (fun tree file =>
    let path : Path := ⟨file.1⟩
    let tree := (tree.createDirectories (path.parent?.getD ⟨""⟩)).1
    (tree.writeText path file.2).toOption.getD tree) empty

end FileTree

end NodeLocale
