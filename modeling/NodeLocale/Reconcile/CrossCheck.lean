import NodeLocale.Issue
import NodeLocale.Text.Case
import NodeLocale.Text.CharClass

/-!
# Cross check

Some translated artifacts hold translated keys along with the translated labels. The cross check
gathers links between English names and Han names from both artifacts and restores every Han key
to the key of the source that the links lead to, provided that there is exactly one.

The links are a list; the two directions of the name table and the English names of a Han name
are views of it.
-/

namespace NodeLocale

/-- A link between an English name and a Han name. -/
structure NameLink where
  english : String
  han : String
deriving DecidableEq

/-- The links between names, in the order of their discovery. -/
structure NameTable where
  links : List NameLink
deriving DecidableEq

namespace NameTable

/-- The last Han name linked to each English name. -/
def enToCn (table : NameTable) : OrderedMap String String :=
  .ofList (table.links.map fun link => (link.english, link.han))

/-- The last English name linked to each Han name. -/
def cnToEn (table : NameTable) : OrderedMap String String :=
  .ofList (table.links.map fun link => (link.han, link.english))

/-- The English names linked to a Han name, in the order of their discovery. -/
def englishFor (table : NameTable) (han : String) : List String :=
  ((table.links.filter fun link => link.han = han).map NameLink.english).eraseDups

/-- The two directions of the table as an object. -/
def toJson (table : NameTable) : Json :=
  .object [("en_to_cn", .object (table.enToCn.entries.map fun e => (e.1, .string e.2))),
    ("cn_to_en", .object (table.cnToEn.entries.map fun e => (e.1, .string e.2)))]

/-- The links of a section that stands for itself in the source: entries whose label is their
key there and a Han text in the translated section. -/
def identityLinks (source translated : FieldMap) : List NameLink :=
  source.entries.filterMap fun entry =>
    if entry.1 = entry.2 then
      match translated.get? entry.1 with
      | some label => if Text.containsHan label then some ⟨entry.1, label⟩ else none
      | none => none
    else none

/-- The link of a translated entry of which exactly one side is Han. -/
def entryLink? (key label : String) : Option NameLink :=
  match Text.containsHan key, Text.containsHan label with
  | false, true => some ⟨key, label⟩
  | true, false => some ⟨label, key⟩
  | _, _ => none

def sectionLinks (translated : FieldMap) : List NameLink :=
  translated.entries.filterMap fun entry => entryLink? entry.1 entry.2

/-- The links that two artifacts give together. -/
def ofArtifacts (source translated : NodeMap) : NameTable where
  links :=
    (source.entries.flatMap fun entry =>
      match translated.get? entry.1 with
      | some schema =>
        FieldSection.all.flatMap fun part =>
          identityLinks (entry.2.fields part) (schema.fields part)
      | none => []) ++
    (translated.values.flatMap fun schema =>
      FieldSection.all.flatMap fun part => sectionLinks (schema.fields part))

end NameTable

/-- What a Han key is taken for. -/
inductive KeyResolution
  /-- Exactly one key of the source. -/
  | found (key : String) (caseInsensitive : Bool)
  /-- Several keys of the source. -/
  | ambiguous (candidates : List String)
  | unmapped
deriving DecidableEq

namespace KeyResolution

/-- Decides by the keys that match; none if there are none. -/
def pick? (caseInsensitive : Bool) : List String → Option KeyResolution
  | [] => none
  | [key] => some (.found key caseInsensitive)
  | several => some (.ambiguous several)

/-- The keys of the source section that a Han key is linked to. -/
def exactMatches (sourceKeys english : List String) : List String :=
  sourceKeys.filter fun key => english.contains key

/-- The keys of the source section that a Han key is linked to, case being ignored. -/
def caseMatches (sourceKeys english : List String) : List String :=
  let lowered := english.map Text.lower
  sourceKeys.filter fun key => lowered.contains (Text.lower key)

/-- What a Han key is taken for in a section with the given source keys. -/
def ofKey (table : NameTable) (sourceKeys : List String) (key : String) : KeyResolution :=
  let english := table.englishFor key
  if english.isEmpty then .unmapped
  else
    match pick? false (exactMatches sourceKeys english) with
    | some resolution => resolution
    | none => (pick? true (caseMatches sourceKeys english)).getD .unmapped

/-- The key under which an entry is kept. -/
def keyFor (key : String) : KeyResolution → String
  | found source _ => source
  | ambiguous _ => key
  | unmapped => key

/-- Whether a Han key is restored. -/
def restores : KeyResolution → Bool
  | found .. => true
  | ambiguous _ => false
  | unmapped => false

/-- What is recorded about a Han key. -/
def issue (node : String) (part : FieldSection) (key : String) : KeyResolution → Issue
  | found source caseInsensitive => .rekeyedEntry node part key source caseInsensitive
  | ambiguous candidates => .ambiguousKey ⟨node, part, key⟩ candidates
  | unmapped => .unmappedKey ⟨node, part, key⟩

end KeyResolution

/-- The result of a cross check. -/
structure CrossChecked where
  /-- The nodes with their keys restored. -/
  nodes : NodeMap
  /-- The links that were used. -/
  table : NameTable
  /-- The decisions, in order. -/
  log : CorrectionLog
  /-- Whether a key was restored. -/
  correctionsMade : Bool
deriving DecidableEq

namespace CrossCheck

def sourceKeys (source : NodeMap) (node : String) (part : FieldSection) : List String :=
  match source.get? node with
  | some schema => (schema.fields part).keys
  | none => []

/-- The key under which an entry of a translated section is kept. -/
def restoredKey (table : NameTable) (sourceKeys : List String) (key : String) : String :=
  if Text.containsHan key then
    (KeyResolution.ofKey table sourceKeys key).keyFor key
  else key

/-- A translated section with its keys restored. -/
def restoredFields (table : NameTable) (sourceKeys : List String) (translated : FieldMap) :
    FieldMap :=
  .ofList (translated.entries.map fun entry =>
    (restoredKey table sourceKeys entry.1, entry.2))

/-- What is recorded about a translated section. -/
def sectionIssues (table : NameTable) (sourceKeys : List String) (node : String)
    (part : FieldSection) (translated : FieldMap) : List Issue :=
  (translated.keys.filter fun key => Text.containsHan key).map fun key =>
    (KeyResolution.ofKey table sourceKeys key).issue node part key

/-- Whether a key of a translated section is restored. -/
def sectionCorrected (table : NameTable) (sourceKeys : List String) (translated : FieldMap) :
    Bool :=
  translated.keys.any fun key =>
    Text.containsHan key && (KeyResolution.ofKey table sourceKeys key).restores

end CrossCheck

/-- Restores the Han keys of a translated artifact. -/
def crossCheck (source translated : NodeMap) : CrossChecked :=
  let table := NameTable.ofArtifacts source translated
  { table
    nodes := translated.mapValues fun node schema => schema.withFields fun part =>
      CrossCheck.restoredFields table (CrossCheck.sourceKeys source node part)
        (schema.fields part)
    log := translated.entries.flatMap fun entry => FieldSection.all.flatMap fun part =>
      CrossCheck.sectionIssues table (CrossCheck.sourceKeys source entry.1 part) entry.1 part
        (entry.2.fields part)
    correctionsMade := translated.entries.any fun entry => FieldSection.all.any fun part =>
      CrossCheck.sectionCorrected table (CrossCheck.sourceKeys source entry.1 part)
        (entry.2.fields part) }

end NodeLocale
