import Mathlib.Data.List.Nodup
import NodeLocale.Proofs.CommandLine.Agreement

/-!
# Added nodes with one normal name

Added nodes are kept and counted under their normal names. Two names of one artifact that differ in
their spacing may have the same normal name, and then the data of the first of the two nodes is
overwritten and the two are counted as one. That is the only way to lose a node, and only nodes that
are added can be lost: it does not matter what becomes of names that are known.
-/

namespace NodeLocale

open CommandLine ToolRequest

namespace NodeDiff

variable {normalizer : NameNormalizer} {older newer : JsonObject}

/-- Whether each added node stands under its normal name, in its place and with its data. -/
structure Renames (normalizer : NameNormalizer) (diff : NodeDiff) : Prop where
  size : diff.addedNormalized.size = diff.added.size
  entry : ∀ (index : Nat) (name : String) (data : Json),
    diff.added.entries[index]? = some (name, data) →
      diff.addedNormalized.entries[index]? = some (normalizer.normalize name, data)

/-- Whether different names of a newer artifact have different normal names, unless they are
known. -/
def ToldApart (normalizer : NameNormalizer) (older newer : JsonObject) : Prop :=
  ∀ name ∈ newer.keys, ∀ other ∈ newer.keys, name ≠ other →
    normalizer.normalize name = normalizer.normalize other →
      ∃ known ∈ older.keys, normalizer.baseName known = normalizer.baseName name

/-- Whether a number is what a tool or a command says to be the number of added nodes. -/
inductive Counted : NameNormalizer → JsonObject → JsonObject → Nat → Prop
  | told {tree : FileTree} {request : DiffRequest} {config : Config} {older newer : JsonObject}
      {json : Json} {count : Nat} (configured : configOrLocal tree request.root = .ok config)
      (olderLoaded : Artifact.loadObject tree request.older = .ok older)
      (newerLoaded : Artifact.loadObject tree request.newer = .ok newer)
      (answered : answer tree (.diffNodes request) = .ok json)
      (member : json.member? "addedCount" = some (.ofNat count)) :
      Counted (.ofConfig config) older newer count
  | shown {programs : Programs} {tree : FileTree} {first second : Path} {output : Option Path}
      {common : CommonOptions} {config : Config} {older newer : JsonObject}
      {result : CommandResult} {summary : DiffSummary}
      (configured : loadSettings tree common = .ok config)
      (loaded : loadCompared tree first second = .ok (older, newer))
      (ended : (run programs tree (.diff first second output common)).outcome = .ok result)
      (told : result.summary = .diff summary) :
      Counted (.ofConfig config) older newer summary.added.length

/-- Added nodes under their normal names, those with the same one included. -/
def renamed (normalizer : NameNormalizer) (added : JsonObject) : List (String × Json) :=
  added.entries.map fun entry => (normalizer.normalize entry.1, entry.2)

theorem addedNormalized_eq (normalizer : NameNormalizer) (older newer : JsonObject) :
    (between normalizer older newer).addedNormalized =
      .ofList (renamed normalizer (between normalizer older newer).added) := rfl

theorem toldApart_iff : ToldApart normalizer older newer ↔
    ((renamed normalizer (between normalizer older newer).added).map Prod.fst).Nodup := by
  have names : (renamed normalizer (between normalizer older newer).added).map Prod.fst =
      (between normalizer older newer).added.keys.map normalizer.normalize := by
    simp [renamed, OrderedMap.keys]
  have distinct : (between normalizer older newer).added.keys.Nodup := OrderedMap.distinct _
  rw [names, List.nodup_map_iff_inj_on distinct]
  constructor
  · intro apart name added other alsoAdded same
    rw [mem_keys_added_iff] at added alsoAdded
    by_contra different
    rcases apart name added.1 other alsoAdded.1 different same with ⟨known, present, sameBase⟩
    exact added.2 (List.mem_map.2 ⟨known, present, sameBase⟩)
  · intro apart name member other otherMember different same
    by_contra unknown
    -- Names with one normal name have one base name, so neither of them is known.
    have sameBase : normalizer.baseName name = normalizer.baseName other := by
      simp only [NameNormalizer.baseName, same]
    have fresh : normalizer.baseName name ∉ baseNames normalizer older := by
      simpa [baseNames] using unknown
    exact different (apart name (mem_keys_added_iff.2 ⟨member, fresh⟩) other
      (mem_keys_added_iff.2 ⟨otherMember, sameBase ▸ fresh⟩) same)

theorem size_addedNormalized_iff :
    (between normalizer older newer).addedNormalized.size =
      (between normalizer older newer).added.size ↔ ToldApart normalizer older newer := by
  rw [toldApart_iff, ← OrderedMap.size_ofList_eq_iff, addedNormalized_eq]
  simp [renamed, OrderedMap.size]

theorem renames_iff : Renames normalizer (between normalizer older newer) ↔
    ToldApart normalizer older newer := by
  constructor
  · intro renames
    exact size_addedNormalized_iff.1 renames.size
  · intro apart
    refine ⟨size_addedNormalized_iff.2 apart, ?_⟩
    intro index name data listed
    have entries : (between normalizer older newer).addedNormalized.entries =
        renamed normalizer (between normalizer older newer).added :=
      Entries.collect_of_nodup (toldApart_iff.1 apart)
    rw [entries]
    simp [renamed, listed]

theorem Counted.eq_size {count : Nat} (counted : Counted normalizer older newer count) :
    count = (between normalizer older newer).addedNormalized.size := by
  cases counted with
  | told configured olderLoaded newerLoaded answered member =>
    simp only [answer, ToolRequest.diff, configured, onArtifact, olderLoaded, newerLoaded, bind,
      Except.bind, Except.mapError, pure, Except.pure, Except.ok.injEq] at answered
    rw [← answered] at member
    simp [Json.member?, Entries.find?, Json.ofNat] at member
    omega
  | @shown _ _ _ _ output _ _ _ _ result summary configured loaded ended told =>
    rcases outcome_runDiff output configured loaded with ⟨error, failed, -⟩ | ⟨other, ok, reported⟩
    · cases failed.symm.trans ended
    · cases ok.symm.trans ended
      obtain rfl := Summary.diff.inj (reported.summary.symm.trans told)
      simp [Comparison.ofLoaded, OrderedMap.keys, OrderedMap.size]

/-- The tool counts the added nodes of any two artifacts that it can load. -/
theorem counted_of_loaded {tree : FileTree} {root : Option Path} {config : Config}
    {first second : Path} (configured : configOrLocal tree root = .ok config)
    (olderLoaded : Artifact.loadObject tree first = .ok older)
    (newerLoaded : Artifact.loadObject tree second = .ok newer) :
    Counted (.ofConfig config) older newer
      (between (.ofConfig config) older newer).addedNormalized.size := by
  let request : DiffRequest := { older := first, newer := second, root }
  have told : ∃ json, answer tree (.diffNodes request) = .ok json ∧
      json.member? "addedCount" =
        some (.ofNat (between (.ofConfig config) older newer).addedNormalized.size) := by
    simp only [request, answer, ToolRequest.diff, configured, onArtifact, olderLoaded, newerLoaded,
      bind, Except.bind, Except.mapError, pure, Except.pure]
    refine ⟨_, rfl, ?_⟩
    simp [Json.member?, Entries.find?]
  rcases told with ⟨json, answered, member⟩
  exact @Counted.told _ request _ _ _ _ _ configured olderLoaded newerLoaded answered member

/-- Added nodes keep their places and their data under their normal names, and are all counted, if
and only if those that are not known are told apart. -/
theorem renames_and_counted_iff (normalizer : NameNormalizer) (older newer : JsonObject) :
    (Renames normalizer (between normalizer older newer) ↔
      ToldApart normalizer older newer) ∧
    ∀ count, Counted normalizer older newer count →
      (count = (between normalizer older newer).added.size ↔ ToldApart normalizer older newer) := by
  refine ⟨renames_iff, ?_⟩
  intro count counted
  rw [counted.eq_size]
  exact size_addedNormalized_iff

/-- Two nodes with one normal name. -/
def spelledTwice : JsonObject := .ofList [
  ("LayerMask: Mask Edge Ultra Detail", .string "first"),
  ("LayerMask: MaskEdgeUltraDetail", .string "second")]

/-- An artifact with no nodes and one with the two. -/
def spellingArtifacts : FileTree :=
  .ofTexts [("old.json", "\x7b\x7d"),
    ("new.json", "\x7b\"LayerMask: Mask Edge Ultra Detail\": \"first\", " ++
      "\"LayerMask: MaskEdgeUltraDetail\": \"second\"\x7d")]

/-- The tool counts one added node where there are two. -/
theorem counted_of_spelledTwice : Counted .standard ∅ spelledTwice 1 ∧
    ¬ ToldApart .standard ∅ spelledTwice := by
  have settings : (configOrLocal spellingArtifacts none).toOption = some {} := by decide +kernel
  have configured : configOrLocal spellingArtifacts none = .ok {} := by
    cases loaded : configOrLocal spellingArtifacts none with
    | error error => simp [loaded, Except.toOption] at settings
    | ok config => simpa [loaded, Except.toOption] using settings
  have olderLoaded : Artifact.loadObject spellingArtifacts ⟨"old.json"⟩ = .ok ∅ := by
    decide +kernel
  have newerLoaded : Artifact.loadObject spellingArtifacts ⟨"new.json"⟩ = .ok spelledTwice := by
    decide +kernel
  have size : (between .standard ∅ spelledTwice).addedNormalized.size = 1 := by decide +kernel
  have counted := counted_of_loaded configured olderLoaded newerLoaded
  rw [← NameNormalizer.standard, size] at counted
  refine ⟨counted, ?_⟩
  intro apart
  have all := ((renames_and_counted_iff .standard ∅ spelledTwice).2 1 counted).2 apart
  exact absurd all (by decide +kernel)

theorem added_of_spelledTwice :
    (between .standard ∅ spelledTwice).added = spelledTwice ∧ spelledTwice.size = 2 ∧
      (between .standard ∅ spelledTwice).addedNormalized.entries =
        [("LayerMask: MaskEdgeUltraDetail", .string "second")] := by
  decide +kernel

end NodeDiff

end NodeLocale
