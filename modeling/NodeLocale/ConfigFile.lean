import NodeLocale.Config
import NodeLocale.FileTree

/-!
# Configuration files

The configuration of a directory is the nearest configuration file in it or above it. The search
goes up the text of the path that it is given, and ends at the top of a repository, which holds
a directory of version control data. Where no file is found the defaults apply.
-/

namespace NodeLocale

/-- Why a configuration could not be loaded. -/
inductive ConfigError
  | read (error : FileError)
  | parse (path : Path) (fault : String)
  | invalid (fault : ConfigFault)
deriving DecidableEq

namespace ConfigError

/-- What failed, without the reason. -/
def summary : ConfigError → String
  | read error => error.message
  | parse path _ => "Failed to parse config file: " ++ Text.quotedPath path.text
  | invalid fault => fault.summary

def message (error : ConfigError) : String :=
  match error with
  | read _ => error.summary
  | parse _ fault => error.summary ++ ": " ++ fault
  | invalid fault => fault.message

end ConfigError

namespace ConfigFile

def fileName : String := ".nodelingorc.json"

/-- The name that marks the top of a repository. -/
def repositoryMark : String := ".git"

/-- The nearest configuration file, going up at most so often. -/
def findWithin (tree : FileTree) : Nat → Path → Option Path
  | 0, _ => none
  | fuel + 1, directory =>
    let candidate := directory.child fileName
    if tree.pathExists candidate then some candidate
    else if tree.pathExists (directory.child repositoryMark) then none
    else
      match directory.parent? with
      | none => none
      | some parent => findWithin tree fuel parent

/-- The nearest configuration file of a directory. -/
def find? (tree : FileTree) (start : Path) : Option Path :=
  findWithin tree (start.text.length + 2) start

/-- A configuration, and whether it comes from a file. -/
structure Loaded where
  config : Config
  fromFile : Bool

def read (tree : FileTree) (path : Path) : Except ConfigError Config := do
  match tree.readText path with
  | .error error => throw (.read error)
  | .ok text =>
    match Json.Reader.readText Config.record.read text with
    | .error fault => throw (.parse path fault)
    | .ok config =>
      match config.validate with
      | .error fault => throw (.invalid fault)
      | .ok () => return config

def load (tree : FileTree) (start : Path) : Except ConfigError Loaded := do
  match find? tree start with
  | none => return ⟨{}, false⟩
  | some path => return ⟨← read tree path, true⟩

end ConfigFile

end NodeLocale
