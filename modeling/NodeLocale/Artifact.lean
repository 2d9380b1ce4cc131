import NodeLocale.FileTree
import NodeLocale.Schema

/-!
# Artifacts

An artifact is a file that holds one JSON value, indented and followed by a line break, or a log
of one text a line. Saving creates the directories that are missing. Loading fails with the step
that failed: the file cannot be read, its text is no JSON, or the value is of another shape.
-/

namespace NodeLocale

/-- Why an artifact could not be saved or loaded. -/
inductive ArtifactError
  | createDirectory (path : Path) (error : FileError)
  | writeFile (path : Path) (error : FileError)
  | readFile (path : Path) (error : FileError)
  | parseJson (path : Path) (fault : String)
  | notObject (path : Path)
  /-- The text is no node map. -/
  | parseNodes (path : Path) (fault : String)
deriving DecidableEq

namespace ArtifactError

/-- What was tried. -/
def attempt : ArtifactError → String
  | createDirectory path _ => "Failed to create directory: " ++ path.text
  | writeFile path _ => "Failed to write file: " ++ path.text
  | readFile path _ => "Failed to read file: " ++ path.text
  | parseJson path _ => "Failed to parse JSON: " ++ path.text
  | notObject path => "Root of JSON file must be an object: " ++ path.text
  | parseNodes path _ => "Failed to parse node mapping: " ++ path.text

/-- Why it failed, where there is more to say. -/
def reason? : ArtifactError → Option String
  | createDirectory _ error => some error.message
  | writeFile _ error => some error.message
  | readFile _ error => some error.message
  | parseJson _ fault => some fault
  | notObject _ => none
  | parseNodes _ fault => some fault

def message (error : ArtifactError) : String :=
  match error.reason? with
  | some reason => error.attempt ++ ": " ++ reason
  | none => error.attempt

end ArtifactError

namespace Artifact

/-- The text of an artifact that holds a value. -/
def text (json : Json) : String := json.pretty ++ "\n"

/-- The text of a log. -/
def linesText (lines : List String) : String := String.join (lines.map (· ++ "\n"))

/-- Creates the directory in which a file is to be written. -/
def prepareParent (tree : FileTree) (path : Path) : FileTree × Except ArtifactError Unit :=
  match path.parent? with
  | none => (tree, .ok ())
  | some parent =>
    if parent.text.isEmpty then (tree, .ok ())
    else
      match tree.createDirectories parent with
      | (tree, .ok ()) => (tree, .ok ())
      | (tree, .error error) => (tree, .error (.createDirectory parent error))

def saveText (tree : FileTree) (path : Path) (text : String) :
    FileTree × Except ArtifactError Unit :=
  match prepareParent tree path with
  | (tree, .error error) => (tree, .error error)
  | (tree, .ok ()) =>
    match tree.writeText path text with
    | .ok written => (written, .ok ())
    | .error error => (tree, .error (.writeFile path error))

def saveJson (tree : FileTree) (path : Path) (json : Json) :
    FileTree × Except ArtifactError Unit := saveText tree path (text json)

def saveLines (tree : FileTree) (path : Path) (lines : List String) :
    FileTree × Except ArtifactError Unit := saveText tree path (linesText lines)

def loadText (tree : FileTree) (path : Path) : Except ArtifactError String :=
  match tree.readText path with
  | .ok text => .ok text
  | .error error => .error (.readFile path error)

def loadObject (tree : FileTree) (path : Path) : Except ArtifactError JsonObject := do
  let text ← loadText tree path
  match Json.Reader.readText Json.Reader.value text with
  | .error fault => throw (.parseJson path fault)
  | .ok (.object members) => return .ofList members
  | .ok _ => throw (.notObject path)

def loadNodes (tree : FileTree) (path : Path) : Except ArtifactError NodeMap := do
  let text ← loadText tree path
  match Json.Reader.readText NodeMap.reader text with
  | .error fault => throw (.parseNodes path fault)
  | .ok nodes => return nodes

end Artifact

end NodeLocale
