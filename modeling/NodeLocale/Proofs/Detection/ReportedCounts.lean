import Mathlib.Algebra.GroupWithZero.Nat
import Mathlib.Data.List.Forall2
import NodeLocale.FileTree.Changes
import NodeLocale.Proofs.Detection.Merging

/-!
# Reports that add up

A survey visits its files one after another, and each file changes what is reported in one of two
ways: a parsed file adds its nodes to the counts, a skipped one adds an issue. So the numbers of a
report are those of its details. The nodes are counted file by file, hence a key that is defined in
two files counts twice there and once among the nodes of the survey.
-/

namespace NodeLocale

open Script (Program)

universe u v

/-! ### Counting collected entries -/

namespace OrderedMap

variable {α : Type u} {β : Type v}

@[simp]
theorem size_empty : (∅ : OrderedMap α β).size = 0 := rfl

@[simp]
theorem keys_empty : (∅ : OrderedMap α β).keys = [] := rfl

variable [DecidableEq α] {map added : OrderedMap α β}

theorem insertMany_eq_ofList (map : OrderedMap α β) (added : List (α × β)) :
    map.insertMany added = ofList (map.entries ++ added) := by
  rw [ofList_append, ofList_entries]

theorem size_insertMany_le (map added : OrderedMap α β) :
    (map.insertMany added.entries).size ≤ map.size + added.size := by
  have bound := size_ofList_le (map.entries ++ added.entries)
  simpa [insertMany_eq_ofList, size] using bound

theorem size_insertMany_eq_iff : (map.insertMany added.entries).size = map.size + added.size ↔
    ∀ key ∈ map.keys, key ∉ added.keys := by
  have whole : (ofList (map.entries ++ added.entries)).size =
      (map.entries ++ added.entries).length ↔
        ((map.entries ++ added.entries).map Prod.fst).Nodup := size_ofList_eq_iff
  rw [List.map_append, List.nodup_append] at whole
  simp only [map.distinct, added.distinct, true_and, List.length_append] at whole
  rw [insertMany_eq_ofList]
  apply whole.trans
  constructor
  · intro different key present again
    exact different key present key again rfl
  · rintro apart key present other again rfl
    exact apart key present again

end OrderedMap

/-! ### Files and what is reported about them -/

namespace FileDetail

def isParsed : FileDetail → Bool
  | parsed .. => true
  | failed .. => false

/-- The number of nodes of a file. -/
def count : FileDetail → Nat
  | parsed _ found => found.count
  | failed .. => 0

/-- Whether an issue says why a file was skipped, as its detail does. -/
inductive Raises : FileDetail → Issue → Prop
  | failed (file error : String) : Raises (.failed file error) (.parseFailure file error)

end FileDetail

namespace Surveyed

variable {tables : TypeTables} {key : String} {surveyed : Surveyed}

/-- Whether a detail tells of a file, by its name and by the keys of its nodes or the error. -/
inductive DescribedBy (tables : TypeTables) : Surveyed → FileDetail → Prop
  | parsed {file : Path} {program : Program} {found : FoundNodes}
      (names : found.names = (Detected.nodes tables (some file) program).keys) :
      DescribedBy tables ⟨file, .ok program⟩ (.parsed file.text found)
  | failed (file : Path) (error : String) :
      DescribedBy tables ⟨file, .error error⟩ (.failed file.text error)

def DefinesKey (tables : TypeTables) (key : String) (surveyed : Surveyed) : Prop :=
  ∃ schema, surveyed.Defines tables key schema

theorem definesKey_iff : surveyed.DefinesKey tables key ↔ key ∈ (surveyed.nodes tables).keys := by
  simp only [DefinesKey, OrderedMap.mem_keys_iff_exists, get?_nodes_iff]

theorem not_definesKey_of_skipped {file : Path} {error : String} :
    ¬DefinesKey tables key ⟨file, .error error⟩ := by
  rintro ⟨schema, ⟨⟩⟩

end Surveyed

/-! ### Visiting files one after another -/

attribute [ext] Survey

namespace Survey

variable {tables : TypeTables} {files : List Surveyed} {survey : Survey}

/-- A survey that goes on with one more file. -/
def goOn (tables : TypeTables) (survey : Survey) (surveyed : Surveyed) : Survey :=
  match surveyed.outcome with
  | .ok program =>
    let found := Detected.nodes tables (some surveyed.file) program
    { survey with
      nodes := survey.nodes.insertMany found.entries
      report := {
        totalFiles := survey.report.totalFiles + 1
        processedFiles := survey.report.processedFiles + 1
        foundNodes := survey.report.foundNodes + found.size
        fileDetails :=
          survey.report.fileDetails ++ [.parsed surveyed.file.text ⟨found.size, found.keys⟩] } }
  | .error error =>
    { survey with
      report := { survey.report with
        totalFiles := survey.report.totalFiles + 1
        fileDetails := survey.report.fileDetails ++ [.failed surveyed.file.text error] }
      issues := survey.issues ++ [.parseFailure surveyed.file.text error] }

theorem ofFiles_concat (tables : TypeTables) (files : List Surveyed) (last : Surveyed) :
    ofFiles tables (files ++ [last]) = goOn tables (ofFiles tables files) last := by
  have nodes : (ofFiles tables (files ++ [last])).nodes =
      (ofFiles tables files).nodes.insertMany (last.nodes tables).entries := by
    rw [nodes_ofFiles, nodes_ofFiles, merged, List.foldl_concat]
    rfl
  have report : (ofFiles tables (files ++ [last])).report =
      (goOn tables (ofFiles tables files) last).report := by
    have sums (counts : List Nat) (count : Nat) :
        (counts ++ [count]).foldr (· + ·) 0 = counts.foldr (· + ·) 0 + count := by
      rw [← List.sum_eq_foldr, ← List.sum_eq_foldr, List.sum_append, List.sum_singleton]
    rcases last with ⟨file, error | program⟩ <;>
      simp [ofFiles, goOn, Surveyed.detail, Surveyed.isParsed, Surveyed.nodes, sums]
  have issues : (ofFiles tables (files ++ [last])).issues =
      (goOn tables (ofFiles tables files) last).issues := by
    rcases last with ⟨file, error | program⟩ <;> simp [ofFiles, goOn, Surveyed.issue?]
  have error : (ofFiles tables (files ++ [last])).error =
      (goOn tables (ofFiles tables files) last).error := by
    rcases last with ⟨file, error | program⟩ <;> rfl
  refine Survey.ext (nodes.trans ?_) report issues error
  rcases last with ⟨file, error | program⟩ <;> rfl

/-- Whether a report adds up: its counts and issues are those of its details, one for each file, and
nodes are counted as often as files define them. -/
structure AddsUp (tables : TypeTables) (files : List Surveyed) (survey : Survey) : Prop where
  total : survey.report.totalFiles = files.length
  listed : survey.report.fileDetails.length = survey.report.totalFiles
  described : List.Forall₂ (Surveyed.DescribedBy tables) files survey.report.fileDetails
  processed : survey.report.processedFiles = survey.report.fileDetails.countP FileDetail.isParsed
  raised : List.Forall₂ FileDetail.Raises
    (survey.report.fileDetails.filter fun detail => !detail.isParsed) survey.issues
  counted : ∀ file found, .parsed file found ∈ survey.report.fileDetails →
    found.names.Nodup ∧ found.count = found.names.length
  found : survey.report.foundNodes = (survey.report.fileDetails.map FileDetail.count).sum
  defined : ∀ key, key ∈ survey.nodes.keys ↔ ∃ file ∈ files, file.DefinesKey tables key
  atLeast : survey.nodes.size ≤ survey.report.foundNodes
  unrepeated : survey.nodes.size = survey.report.foundNodes ↔
    files.Pairwise fun file other => ∀ key,
      ¬(file.DefinesKey tables key ∧ other.DefinesKey tables key)

theorem addsUp_nil (tables : TypeTables) : AddsUp tables [] {} := by
  constructor <;> simp

namespace AddsUp

theorem goOn_failed (adds : AddsUp tables files survey) (file : Path) (error : String) :
    AddsUp tables (files ++ [⟨file, .error error⟩])
      (survey.goOn tables ⟨file, .error error⟩) where
  total := by simp [goOn, adds.total]
  listed := by simp [goOn, adds.listed]
  described := List.rel_append adds.described (.cons (.failed file error) .nil)
  processed := by simp [goOn, adds.processed, FileDetail.isParsed]
  raised := by
    simpa [goOn, FileDetail.isParsed] using
      List.rel_append adds.raised (.cons (.failed file.text error) .nil)
  counted := by simpa [goOn] using adds.counted
  found := by simp [goOn, adds.found, FileDetail.count]
  defined := by simp [goOn, adds.defined, Surveyed.not_definesKey_of_skipped]
  atLeast := adds.atLeast
  unrepeated := by
    simp [goOn, adds.unrepeated, List.pairwise_append, Surveyed.not_definesKey_of_skipped]

theorem goOn_parsed (adds : AddsUp tables files survey) (file : Path) (program : Program) :
    AddsUp tables (files ++ [⟨file, .ok program⟩])
      (survey.goOn tables ⟨file, .ok program⟩) := by
  have own (key : String) : Surveyed.DefinesKey tables key ⟨file, .ok program⟩ ↔
      key ∈ (Detected.nodes tables (some file) program).keys :=
    Surveyed.definesKey_iff
  have bound :=
    OrderedMap.size_insertMany_le survey.nodes (Detected.nodes tables (some file) program)
  constructor
  case total => simp [goOn, adds.total]
  case listed => simp [goOn, adds.listed]
  case described => exact List.rel_append adds.described (.cons (.parsed rfl) .nil)
  case processed => simp [goOn, adds.processed, FileDetail.isParsed]
  case raised => simpa [goOn, FileDetail.isParsed] using adds.raised
  case counted =>
    intro other found listed
    simp only [goOn, List.mem_append, List.mem_singleton, FileDetail.parsed.injEq] at listed
    rcases listed with earlier | ⟨-, rfl⟩
    · exact adds.counted other found earlier
    · exact ⟨OrderedMap.distinct _, by simp [OrderedMap.size, OrderedMap.keys]⟩
  case found => simp [goOn, adds.found, FileDetail.count]
  case defined =>
    intro key
    have written : key ∈ (survey.goOn tables ⟨file, .ok program⟩).nodes.keys ↔
        key ∈ survey.nodes.keys ∨ key ∈ (Detected.nodes tables (some file) program).keys :=
      OrderedMap.mem_keys_insertMany
    rw [written, adds.defined]
    simp [or_and_right, exists_or, own]
  case atLeast =>
    have before := adds.atLeast
    simp only [goOn]
    omega
  case unrepeated =>
    -- Nothing is lost exactly if nothing was lost before and no key is there already.
    have split : (survey.goOn tables ⟨file, .ok program⟩).nodes.size =
          (survey.goOn tables ⟨file, .ok program⟩).report.foundNodes ↔
        survey.nodes.size = survey.report.foundNodes ∧
          ∀ key ∈ survey.nodes.keys, key ∉ (Detected.nodes tables (some file) program).keys := by
      rw [← OrderedMap.size_insertMany_eq_iff]
      have before := adds.atLeast
      simp only [goOn]
      omega
    rw [split, adds.unrepeated, List.pairwise_append]
    apply and_congr_right
    intro apart
    simp only [List.pairwise_singleton, List.mem_singleton, forall_eq, true_and, own,
      adds.defined]
    constructor
    · rintro fresh other visited key ⟨earlier, now⟩
      exact fresh key ⟨other, visited, earlier⟩ now
    · rintro fresh key ⟨other, visited, earlier⟩ now
      exact fresh other visited key ⟨earlier, now⟩

theorem goOn (adds : AddsUp tables files survey) (last : Surveyed) :
    AddsUp tables (files ++ [last]) (survey.goOn tables last) := by
  rcases last with ⟨file, error | program⟩
  · exact adds.goOn_failed file error
  · exact adds.goOn_parsed file program

end AddsUp

theorem addsUp_ofFiles (tables : TypeTables) (files : List Surveyed) :
    AddsUp tables files (ofFiles tables files) := by
  induction files using List.reverseRecOn with
  | nil => exact addsUp_nil tables
  | append_singleton front last ih =>
    rw [ofFiles_concat]
    exact ih.goOn last

/-- The report on files adds up, whether they could be read and parsed or not. So does that on a
directory, for the files of it that may define nodes. -/
theorem addsUp_report (tables : TypeTables) :
    (∀ files, AddsUp tables files (ofFiles tables files)) ∧
      ∀ ignored tree root files, candidates ignored tree root = .ok files →
        AddsUp tables (files.map (readFile tree)) (ofDirectory tables ignored tree root) := by
  refine ⟨addsUp_ofFiles tables, ?_⟩
  intro ignored tree root files listed
  rw [ofDirectory, listed]
  exact addsUp_ofFiles tables _

/-- A directory with a file that is not valid and with a node that two files define. -/
def redefined : FileTree :=
  .ofTexts [("pack/a.py", "class Blur:\n    RETURN_TYPES = (\"IMAGE\",)\n"),
    ("pack/b.py", "class Blur(:\n"),
    ("pack/c.py", "class Blur:\n    RETURN_TYPES = (\"MASK\",)\n")]

/-- The node counts twice in the report, and the file that is not valid counts as skipped. -/
theorem addsUp_of_redefined :
    let survey := ofDirectory (.ofConfig {}) [] redefined ⟨"pack"⟩
    AddsUp (.ofConfig {})
        ([⟨"/pack/a.py"⟩, ⟨"/pack/b.py"⟩, ⟨"/pack/c.py"⟩].map (readFile redefined)) survey ∧
      survey.report.totalFiles = 3 ∧ survey.report.processedFiles = 2 ∧
      survey.report.foundNodes = 2 ∧ survey.nodes.size = 1 := by
  intro survey
  have resolved : redefined.resolve ⟨"pack"⟩ = .ok ["pack"] := by decide +kernel
  have places : redefined.placesBelow ["pack"] =
      [["pack", "a.py"], ["pack", "b.py"], ["pack", "c.py"]] := by
    rw [FileTree.placesBelow, List.mergeSort_of_pairwise (by decide +kernel)]
    decide +kernel
  have listed : candidates [] redefined ⟨"pack"⟩ =
      .ok [⟨"/pack/a.py"⟩, ⟨"/pack/b.py"⟩, ⟨"/pack/c.py"⟩] := by
    rw [candidates, if_neg (by decide +kernel), if_neg (by decide +kernel), resolved]
    simp only [places]
    decide +kernel
  refine ⟨(addsUp_report (.ofConfig {})).2 [] redefined ⟨"pack"⟩ _ listed, ?_⟩
  simp only [survey, ofDirectory, listed]
  decide +kernel

end Survey

end NodeLocale
