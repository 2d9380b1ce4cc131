import NodeLocale.Text.Blank

/-!
# Paths

A path is the text that names a file, and stays as it was written: messages show it unchanged.
What it consists of is a matter of reading the text. Repeated separators, separators at the end
and single dots other than a leading one do not count.
-/

namespace NodeLocale

/-- A path, as it was written. -/
structure Path where
  text : String
deriving DecidableEq, Inhabited

namespace Path

/-- What a path consists of. -/
inductive Part
  /-- The separator in front of an absolute path. -/
  | root
  /-- A single dot in front of a relative path. -/
  | here
  /-- Two dots. -/
  | up
  | name (text : String)
deriving DecidableEq

def Part.text : Part → String
  | root => "/"
  | here => "."
  | up => ".."
  | name text => text

/-- Whether a path starts at the root. -/
def isAbsolute (path : Path) : Bool := path.text.toList.head? == some '/'

def endsWithSeparator (path : Path) : Bool := path.text.toList.getLast? == some '/'

/-- The texts between separators, without empty ones. -/
def segments (path : Path) : List String :=
  ((Text.splitChars (· == '/') path.text.toList).filter fun run => !run.isEmpty).map
    String.ofList

/-- The part that a text between separators stands for, unless it is a single dot. -/
def Part.ofSegment? (segment : String) : Option Part :=
  if segment = "." then none
  else if segment = ".." then some .up
  else some (.name segment)

def parts (path : Path) : List Part :=
  let inner := path.segments.filterMap Part.ofSegment?
  if path.isAbsolute then .root :: inner
  else if path.segments.head? = some "." then .here :: inner
  else inner

/-- The last part of a path. -/
def lastPart? (path : Path) : Option Part := path.parts.getLast?

/-- Whether two paths consist of the same parts. -/
def same (left right : Path) : Bool := left.parts = right.parts

/-- Drops separators and single dots at the end of a path given backwards. -/
def dropTail : List Char → List Char
  | ['/'] => ['/']
  | '/' :: rest => dropTail rest
  | ['.', '/'] => ['/']
  | '.' :: '/' :: rest => dropTail rest
  | text => text

/-- The path without its last part; none for a path that has only a root or no part. -/
def parent? (path : Path) : Option Path :=
  match path.lastPart? with
  | none => none
  | some .root => none
  | some _ =>
    let backwards := (dropTail path.text.toList.reverse).dropWhile fun c => c != '/'
    some ⟨String.ofList (dropTail backwards).reverse⟩

/-- The last part of a path, if it is a name. -/
def fileName? (path : Path) : Option String :=
  match path.lastPart? with
  | some (.name text) => some text
  | _ => none

/-- Appends a path to another one; an absolute path replaces it. -/
def join (path appended : Path) : Path :=
  if appended.isAbsolute then appended
  else if path.text.isEmpty || path.endsWithSeparator then ⟨path.text ++ appended.text⟩
  else ⟨path.text ++ "/" ++ appended.text⟩

/-- Appends a name to a path. -/
def child (path : Path) (name : String) : Path := path.join ⟨name⟩

/-- Replaces the file name of a path. -/
def withFileName (path : Path) (name : String) : Path :=
  match path.fileName? with
  | some _ => (path.parent?.getD ⟨""⟩).child name
  | none => path.child name

/-- Splits a file name at its last dot, unless nothing stands before it. -/
def splitName (name : String) : String × Option String :=
  let backwards := name.toList.reverse
  let ending := backwards.takeWhile fun c => c != '.'
  match backwards.dropWhile fun c => c != '.' with
  | [] => (name, none)
  | [_] => (name, none)
  | _ :: stem => (String.ofList stem.reverse, some (String.ofList ending.reverse))

/-- The file name without its extension. -/
def fileStem? (path : Path) : Option String := path.fileName?.map fun name => (splitName name).1

/-- The extension of the file name. -/
def extension? (path : Path) : Option String :=
  path.fileName?.bind fun name => (splitName name).2

end Path

end NodeLocale
