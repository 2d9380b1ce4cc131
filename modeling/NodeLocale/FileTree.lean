import NodeLocale.OrderedMap
import NodeLocale.Path

/-!
# File trees

What a command reads and leaves behind is a value: a tree of directories and files together
with the working directory from which relative paths are read. A place of the tree is the list
of names that lead to it from the root. Operations that fail leave the tree as it was, except
that creating a directory with its parents may have created some of them.

A path leads to a place step by step, and every step must start from a directory that exists.
A tree carries the fact that whatever stands at a place stands in a directory, so nothing is ever
below a file.
-/

namespace NodeLocale

/-- A place of a file tree: the names that lead to it from the root. -/
abbrev Place := List String

/-- What stands at a place of a file tree. -/
inductive FileNode
  | directory
  | file (content : ByteArray)

instance : DecidableEq FileNode
  | .directory, .directory => isTrue rfl
  | .file left, .file right =>
    decidable_of_iff (left.data = right.data)
      ⟨fun same => congrArg FileNode.file (ByteArray.ext same), fun same => by cases same; rfl⟩
  | .directory, .file _ => isFalse nofun
  | .file _, .directory => isFalse nofun

/-- Why an operation on files failed. -/
inductive FileError
  /-- Nothing stands at the place. -/
  | notFound
  /-- Something stands at the place already. -/
  | alreadyExists
  /-- Something may not be used in that way. -/
  | permissionDenied
  /-- A directory was wanted and something else found. -/
  | notDirectory
  /-- A file was wanted and a directory found. -/
  | isDirectory
  | nameTooLong
  /-- A path holds a null character. -/
  | nullInPath
  | invalidText
deriving DecidableEq

def FileError.message : FileError → String
  | notFound => "No such file or directory (os error 2)"
  | permissionDenied => "Permission denied (os error 13)"
  | alreadyExists => "File exists (os error 17)"
  | notDirectory => "Not a directory (os error 20)"
  | isDirectory => "Is a directory (os error 21)"
  | nameTooLong => "File name too long (os error 36)"
  | nullInPath => "file name contained an unexpected NUL byte"
  | invalidText => "stream did not contain valid UTF-8"

/-- What stands at a place, given what stands at the places other than the root. -/
def Place.node? (nodes : OrderedMap Place FileNode) (place : Place) : Option FileNode :=
  if place.isEmpty then some .directory else nodes.get? place

/-- A tree of directories and files, with a working directory. -/
structure FileTree where
  /-- What stands at each place other than the root. -/
  nodes : OrderedMap Place FileNode
  /-- The directory from which relative paths are read. -/
  workingDirectory : Place
  /-- Whatever stands at a place stands in a directory. -/
  rooted : ∀ place ∈ nodes.keys, Place.node? nodes place.dropLast = some .directory

namespace FileTree

/-- The tree that consists of the root alone. -/
def empty : FileTree := ⟨∅, [], fun _ absent => nomatch absent⟩

/-- What stands at a place. -/
def node? (tree : FileTree) (place : Place) : Option FileNode := place.node? tree.nodes

/-- Whether a node may be put at a place: the place is in a directory and is none itself. -/
def Admits (tree : FileTree) (place : Place) : Prop :=
  tree.node? place ≠ some .directory ∧ tree.node? place.dropLast = some .directory

instance (tree : FileTree) (place : Place) : Decidable (tree.Admits place) :=
  inferInstanceAs (Decidable (_ ∧ _))

theorem rooted_insert {tree : FileTree} {place : Place} (admitted : tree.Admits place)
    (node : FileNode) : ∀ other ∈ (tree.nodes.insert place node).keys,
      Place.node? (tree.nodes.insert place node) other.dropLast = some .directory := by
  intro other present
  have parent : tree.node? other.dropLast = some .directory := by
    rcases OrderedMap.mem_keys_insert.1 present with same | older
    · exact same ▸ admitted.2
    · exact tree.rooted other older
  have different : place ≠ other.dropLast := fun same => admitted.1 (same ▸ parent)
  simpa [node?, Place.node?, OrderedMap.get?_insert, different] using parent

/-- Puts a node at a place that admits one; any other place stays as it is. -/
def put (tree : FileTree) (place : Place) (node : FileNode) : FileTree :=
  if admitted : tree.Admits place then
    { tree with
      nodes := tree.nodes.insert place node
      rooted := rooted_insert admitted node }
  else tree

theorem rooted_filter (tree : FileTree) (place : Place) :
    ∀ other ∈ (tree.nodes.filter fun other _ => !place.isPrefixOf other).keys,
      Place.node? (tree.nodes.filter fun other _ => !place.isPrefixOf other) other.dropLast =
        some .directory := by
  intro other present
  rw [OrderedMap.mem_keys_iff, OrderedMap.get?_filter_keys] at present
  have kept : place.isPrefixOf other = false := by
    cases below : place.isPrefixOf other with
    | false => rfl
    | true => simp [below] at present
  have older : other ∈ tree.nodes.keys := by
    simpa [OrderedMap.mem_keys_iff, kept] using present
  have parentKept : place.isPrefixOf other.dropLast = false := by
    cases below : place.isPrefixOf other.dropLast with
    | false => rfl
    | true =>
      have chain := (List.isPrefixOf_iff_prefix.1 below).trans (List.dropLast_prefix other)
      rw [List.isPrefixOf_iff_prefix.2 chain] at kept
      exact kept
  have parent := tree.rooted other older
  simpa [Place.node?, OrderedMap.get?_filter_keys, parentKept] using parent

/-- Removes a place and everything below it. -/
def prune (tree : FileTree) (place : Place) : FileTree :=
  { tree with
    nodes := tree.nodes.filter fun other _ => !place.isPrefixOf other
    rooted := rooted_filter tree place }

def step (place : Place) (segment : String) : Place :=
  if segment = "." then place
  else if segment = ".." then place.dropLast
  else place ++ [segment]

/-- Follows the steps of a path from a place. The last step may lead to a free place. -/
def follow (tree : FileTree) : Place → List String → Except FileError Place
  | place, [] => .ok place
  | place, segment :: rest =>
    match tree.node? place with
    | none => .error .notFound
    | some (.file _) => .error .notDirectory
    | some .directory =>
      if 255 < segment.utf8ByteSize then .error .nameTooLong
      else tree.follow (step place segment) rest

/-- The place to which a path leads. -/
def resolve (tree : FileTree) (path : Path) : Except FileError Place :=
  if path.text.isEmpty then .error .notFound
  else if path.text.toList.contains '\x00' then .error .nullInPath
  else if 4095 < path.text.utf8ByteSize then .error .nameTooLong
  else tree.follow (if path.isAbsolute then [] else tree.workingDirectory) path.segments

/-- What stands at the end of a path. A separator at the end asks for a directory. -/
def look (tree : FileTree) (path : Path) : Except FileError FileNode := do
  let place ← tree.resolve path
  match tree.node? place with
  | none => throw .notFound
  | some .directory => return .directory
  | some (.file content) =>
    if path.endsWithSeparator then throw .notDirectory else return .file content

/-- Whether a path leads to a file or a directory. -/
def pathExists (tree : FileTree) (path : Path) : Bool :=
  match tree.look path with
  | .ok _ => true
  | .error _ => false

def isFile (tree : FileTree) (path : Path) : Bool :=
  match tree.look path with
  | .ok (.file _) => true
  | _ => false

def isDirectory (tree : FileTree) (path : Path) : Bool :=
  match tree.look path with
  | .ok .directory => true
  | _ => false

def pathOf (place : Place) : Path := ⟨"/" ++ String.intercalate "/" place⟩

/-- The path from the root to what a path leads to. -/
def canonical? (tree : FileTree) (path : Path) : Option Path :=
  match tree.look path, tree.resolve path with
  | .ok _, .ok place => some (pathOf place)
  | _, _ => none

/-- The content of a file. -/
def readBytes (tree : FileTree) (path : Path) : Except FileError ByteArray := do
  match ← tree.look path with
  | .directory => throw .isDirectory
  | .file content => return content

/-- The content of a file that holds text. -/
def readText (tree : FileTree) (path : Path) : Except FileError String := do
  match String.fromUTF8? (← tree.readBytes path) with
  | some text => return text
  | none => throw .invalidText

/-- Writes a file, replacing its content. -/
def writeBytes (tree : FileTree) (path : Path) (content : ByteArray) :
    Except FileError FileTree := do
  let place ← tree.resolve path
  match tree.node? place with
  | some .directory => throw .isDirectory
  | some (.file _) =>
    if path.endsWithSeparator then throw .notDirectory
    else return tree.put place (.file content)
  | none =>
    if path.endsWithSeparator then throw .isDirectory
    else return tree.put place (.file content)

def writeText (tree : FileTree) (path : Path) (text : String) : Except FileError FileTree :=
  tree.writeBytes path text.toUTF8

/-- Creates one directory at a free place. -/
def createDirectory (tree : FileTree) (path : Path) : Except FileError FileTree := do
  let place ← tree.resolve path
  match tree.node? place with
  | some _ => throw .alreadyExists
  | none => return tree.put place .directory

/-- Creates a directory whose parents exist; one that is there already will do. -/
def ensureDirectory (tree : FileTree) (path : Path) : FileTree × Except FileError Unit :=
  match tree.createDirectory path with
  | .ok created => (created, .ok ())
  | .error error =>
    if tree.isDirectory path then (tree, .ok ()) else (tree, .error error)

/-- Creates a directory and those of its parents that are missing, going up at most so often. -/
def createDirectoriesWithin : Nat → FileTree → Path → FileTree × Except FileError Unit
  | 0, tree, _ => (tree, .error .notFound)
  | fuel + 1, tree, path =>
    if path.text.isEmpty then (tree, .ok ())
    else
      match tree.createDirectory path with
      | .ok created => (created, .ok ())
      | .error .notFound =>
        match path.parent? with
        | none => (tree, .error .notFound)
        | some parent =>
          match createDirectoriesWithin fuel tree parent with
          | (tree, .ok ()) => tree.ensureDirectory path
          | (tree, .error error) => (tree, .error error)
      | .error error =>
        if tree.isDirectory path then (tree, .ok ()) else (tree, .error error)

/-- Creates a directory and those of its parents that are missing. -/
def createDirectories (tree : FileTree) (path : Path) : FileTree × Except FileError Unit :=
  createDirectoriesWithin (path.text.length + 1) tree path

def removeFile (tree : FileTree) (path : Path) : Except FileError FileTree := do
  let place ← tree.resolve path
  match tree.node? place with
  | none => throw .notFound
  | some .directory => throw .isDirectory
  | some (.file _) =>
    if path.endsWithSeparator then throw .notDirectory else return tree.prune place

/-- Whether a name comes before another one in alphabetical order. -/
def nameBefore (left right : String) : Bool :=
  (left.toList.map Char.toNat).lex (right.toList.map Char.toNat) Nat.blt

/-- The places below a place, in alphabetical order. -/
def placesBelow (tree : FileTree) (place : Place) : List Place :=
  (tree.nodes.keys.filter fun other => place.isPrefixOf other && other != place).mergeSort
    fun left right => !right.lex left nameBefore

/-- Moves the working directory. -/
def enter (tree : FileTree) (place : Place) : FileTree := { tree with workingDirectory := place }

end FileTree

end NodeLocale
