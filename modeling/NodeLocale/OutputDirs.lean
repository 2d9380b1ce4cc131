import NodeLocale.Artifact
import NodeLocale.NodeName

/-!
# Output directories

Every plugin has a directory of its own below the output directory, named for the plugin. All
artifacts of a plugin have fixed places in it.
-/

namespace NodeLocale

/-- Where the artifacts of a plugin go. -/
structure OutputDirs where
  /-- The directory of all plugins. -/
  output : Path
  plugin : String
deriving DecidableEq

namespace OutputDirs

/-- The output directories of the plugin in a directory. -/
def ofPlugin (output plugin : Path) : OutputDirs := ⟨output, pluginName plugin⟩

/-- The directory of the plugin. -/
def root (dirs : OutputDirs) : Path := dirs.output.child dirs.plugin

/-- The directory of what is kept only while a run goes on. -/
def temp (dirs : OutputDirs) : Path := dirs.root.child "temp"

/-- The directory of localized artifacts. -/
def localized (dirs : OutputDirs) : Path := dirs.root.child "translations"

/-- The directory of correction logs. -/
def logs (dirs : OutputDirs) : Path := dirs.root.child "logs"

/-- The directory of reports. -/
def debug (dirs : OutputDirs) : Path := dirs.root.child "debug"

/-- The detected nodes. -/
def nodesFile (dirs : OutputDirs) : Path := dirs.root.child (dirs.plugin ++ "_nodes.json")

def reportFile (dirs : OutputDirs) : Path := dirs.debug.child "node_detection_debug.json"

/-- The nodes that a run is to translate. -/
def pendingFile (dirs : OutputDirs) : Path := dirs.temp.child "nodes_to_translate.json"

/-- The repaired nodes of a batch. -/
def batchFile (dirs : OutputDirs) (batch : Nat) : Path :=
  dirs.localized.child ("batch_" ++ toString batch ++ "_translated.json")

/-- The correction log of a batch. -/
def batchLogFile (dirs : OutputDirs) (batch : Nat) : Path :=
  dirs.logs.child ("batch_" ++ toString batch ++ "_corrections.log")

/-- The correction log of the final validation. -/
def finalLogFile (dirs : OutputDirs) : Path := dirs.logs.child "final_corrections.log"

/-- The translated nodes. -/
def finalFile (dirs : OutputDirs) : Path := dirs.localized.child (dirs.plugin ++ ".json")

/-- Creates directories one after another, up to the first that cannot be created. -/
def createAll (tree : FileTree) : List Path → FileTree × Except ArtifactError Unit
  | [] => (tree, .ok ())
  | path :: rest =>
    match tree.createDirectories path with
    | (tree, .ok ()) => createAll tree rest
    | (tree, .error error) => (tree, .error (.createDirectory path error))

/-- Creates the directories of a plugin. -/
def create (tree : FileTree) (dirs : OutputDirs) : FileTree × Except ArtifactError Unit :=
  createAll tree [dirs.temp, dirs.localized, dirs.logs, dirs.debug]

end OutputDirs

end NodeLocale
