import NodeLocale.NodeName

/-!
# Added nodes

A node of a newer artifact is added when no node of the older artifact has its base name. Added
nodes keep their data and their order, and are also listed under their normal names.
-/

namespace NodeLocale

/-- The nodes of one artifact that another one lacks. -/
structure NodeDiff where
  /-- The added nodes under their keys. -/
  added : JsonObject
  /-- The added nodes under their normal names. -/
  addedNormalized : JsonObject

namespace NodeDiff

def baseNames (normalizer : NameNormalizer) (nodes : JsonObject) : List String :=
  nodes.keys.map normalizer.baseName

/-- Compares two artifacts. -/
def between (normalizer : NameNormalizer) (older newer : JsonObject) : NodeDiff :=
  let known := baseNames normalizer older
  let added := newer.filter fun name _ => !known.contains (normalizer.baseName name)
  ⟨added, .ofList (added.entries.map fun entry => (normalizer.normalize entry.1, entry.2))⟩

/-- Whether no node was added. -/
def isEmpty (diff : NodeDiff) : Bool := diff.added.isEmpty

def addedNames (diff : NodeDiff) : List String := diff.addedNormalized.keys

end NodeDiff

end NodeLocale
