import NodeLocale.Detection.Survey
import NodeLocale.OutputDirs

/-!
# Extractions

The extraction of a plugin is the survey of its directory together with the artifacts that it
leaves behind: the nodes and the report. The artifacts are named for the directory to which the
path of the plugin leads.
-/

namespace NodeLocale

/-- What extractions need to know. -/
structure ExtractionSettings where
  tables : TypeTables
  /-- The patterns of paths that are not scanned. -/
  ignored : List Glob
  /-- The directory below which artifacts are written. -/
  output : Path

def ExtractionSettings.ofConfig (config : Config) : ExtractionSettings :=
  ⟨.ofConfig config, config.ignorePatterns, ⟨config.outputDir⟩⟩

/-- What was extracted from a plugin. -/
structure PluginExtraction where
  /-- The places of the artifacts. -/
  dirs : OutputDirs
  survey : Survey

namespace PluginExtraction

def plugin (extraction : PluginExtraction) : String := extraction.dirs.plugin

def save (tree : FileTree) (extraction : PluginExtraction) :
    FileTree × Except ArtifactError Unit :=
  match OutputDirs.create tree extraction.dirs with
  | (tree, .error error) => (tree, .error error)
  | (tree, .ok ()) =>
    match Artifact.saveJson tree extraction.dirs.nodesFile
        extraction.survey.nodes.withoutSources.toJson with
    | (tree, .error error) => (tree, .error error)
    | (tree, .ok ()) =>
      Artifact.saveJson tree extraction.dirs.reportFile extraction.survey.report.toJson

/-- What a plugin directory holds. -/
def ofDirectory (settings : ExtractionSettings) (tree : FileTree) (plugin : Path) :
    PluginExtraction where
  dirs := .ofPlugin settings.output ((tree.canonical? plugin).getD plugin)
  survey := .ofDirectory settings.tables settings.ignored tree plugin

/-- Extracts a plugin. Nothing is saved if the directory could not be surveyed. -/
def run (settings : ExtractionSettings) (tree : FileTree) (plugin : Path) :
    FileTree × Except ArtifactError PluginExtraction :=
  let extraction := ofDirectory settings tree plugin
  if extraction.survey.error.isSome then (tree, .ok extraction)
  else
    match extraction.save tree with
    | (tree, .ok ()) => (tree, .ok extraction)
    | (tree, .error error) => (tree, .error error)

end PluginExtraction

end NodeLocale
