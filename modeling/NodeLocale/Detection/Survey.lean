import NodeLocale.Detection.Detected
import NodeLocale.FileTree
import NodeLocale.Glob
import NodeLocale.Issue
import NodeLocale.Script.StatementReader

/-!
# Surveys

A survey of a plugin directory finds the nodes of all its source files. A file that cannot be
read or is not valid is reported and skipped. Where a key is defined in several files the last
one counts, in the order in which the files are visited. The report counts every definition,
including those that a later file replaces.
-/

namespace NodeLocale

open Script (Program)

/-- Why a directory could not be surveyed. -/
inductive SurveyError
  /-- Nothing is there. -/
  | notFound (path : Path)
  | notDirectory (path : Path)
deriving DecidableEq

def SurveyError.message : SurveyError → String
  | notFound path => "Directory not found: " ++ path.text
  | notDirectory path => "Not a directory: " ++ path.text

/-- A source file, and its program or why there is none. -/
structure Surveyed where
  file : Path
  outcome : Except String Program

/-- The nodes of a file, as they are reported. -/
structure FoundNodes where
  count : Nat
  names : List String
deriving DecidableEq

/-- What is reported about a file. -/
inductive FileDetail
  | parsed (file : String) (found : FoundNodes)
  /-- Why it was skipped. -/
  | failed (file error : String)
deriving DecidableEq

/-- What is reported about a directory. -/
structure DetectionReport where
  totalFiles : Nat := 0
  /-- The number of files that are valid. -/
  processedFiles : Nat := 0
  /-- The number of definitions in them. -/
  foundNodes : Nat := 0
  fileDetails : List FileDetail := []
deriving DecidableEq

/-- What is found in a directory. -/
structure Survey where
  nodes : NodeMap := ∅
  report : DetectionReport := {}
  /-- The files that were skipped. -/
  issues : List Issue := []
  /-- Why the directory could not be surveyed, if so. -/
  error : Option SurveyError := none

namespace FileDetail

/-- What is reported about a file as an object. -/
def toJson : FileDetail → Json
  | parsed file found =>
    .object [("file", .string file), ("nodes_found", .ofNat found.count),
      ("node_names", .ofStrings found.names)]
  | failed file error => .object [("file", .string file), ("error", .string error)]

end FileDetail

def DetectionReport.toJson (report : DetectionReport) : Json :=
  .object [("total_files", .ofNat report.totalFiles),
    ("processed_files", .ofNat report.processedFiles), ("found_nodes", .ofNat report.foundNodes),
    ("file_details", .array (report.fileDetails.map FileDetail.toJson))]

namespace Surveyed

/-- The nodes that a file defines; none if it was skipped. -/
def nodes (tables : TypeTables) (surveyed : Surveyed) : NodeMap :=
  match surveyed.outcome with
  | .ok program => Detected.nodes tables (some surveyed.file) program
  | .error _ => ∅

/-- What is reported about a file. -/
def detail (tables : TypeTables) (surveyed : Surveyed) : FileDetail :=
  match surveyed.outcome with
  | .ok _ =>
    .parsed surveyed.file.text ⟨(surveyed.nodes tables).size, (surveyed.nodes tables).keys⟩
  | .error error => .failed surveyed.file.text error

/-- The issue of a file that was skipped. -/
def issue? (surveyed : Surveyed) : Option Issue :=
  match surveyed.outcome with
  | .ok _ => none
  | .error error => some (.parseFailure surveyed.file.text error)

/-- Whether a file is valid. -/
def isParsed (surveyed : Surveyed) : Bool :=
  match surveyed.outcome with
  | .ok _ => true
  | .error _ => false

end Surveyed

namespace Survey

/-- What is found in files that are visited in the given order. -/
def ofFiles (tables : TypeTables) (files : List Surveyed) : Survey where
  nodes := NodeMap.applyIdentity tables.primitive
    (.ofList (files.flatMap fun surveyed => (surveyed.nodes tables).entries))
  report := {
    totalFiles := files.length
    processedFiles := files.countP Surveyed.isParsed
    foundNodes := (files.map fun surveyed => (surveyed.nodes tables).size).foldr (· + ·) 0
    fileDetails := files.map (Surveyed.detail tables) }
  issues := files.filterMap Surveyed.issue?

def sourceExtension : String := "py"

/-- The file that makes a directory a package, which defines no nodes. -/
def packageFileName : String := "__init__.py"

/-- The beginning of the names of tests. -/
def testMark : String := "test_"

/-- Whether a file may define nodes, by its name. -/
def isCandidate (file : Path) : Bool :=
  match file.fileName? with
  | some name =>
    file.extension? = some sourceExtension && name ≠ packageFileName &&
      !testMark.toList.isPrefixOf name.toList
  | none => false

/-- The files of a directory that may define nodes and are not ignored. -/
def candidates (ignored : List Glob) (tree : FileTree) (root : Path) :
    Except SurveyError (List Path) :=
  if !tree.pathExists root then .error (.notFound root)
  else if !tree.isDirectory root then .error (.notDirectory root)
  else
    match tree.resolve root with
    | .error _ => .ok []
    | .ok place =>
      .ok (((tree.placesBelow place).map FileTree.pathOf).filter fun file =>
        tree.isFile file && isCandidate file &&
          !(ignored.any fun pattern => pattern.accepts file.text))

def readFile (tree : FileTree) (file : Path) : Surveyed where
  file
  outcome :=
    match tree.readText file with
    | .error error => .error error.message
    | .ok source =>
      match Program.parse source with
      | .error fault => .error fault.message
      | .ok program => .ok program

def ofDirectory (tables : TypeTables) (ignored : List Glob) (tree : FileTree) (root : Path) :
    Survey :=
  match candidates ignored tree root with
  | .error error => { error := some error }
  | .ok files => ofFiles tables (files.map (readFile tree))

end Survey

end NodeLocale
