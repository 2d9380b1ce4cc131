import NodeLocale.Config
import NodeLocale.Path
import NodeLocale.Text.CharClass

/-!
# Node names

Names of nodes drift between releases in spacing and punctuation. The normal form of a name
keeps the category before the first colon and joins the words behind it, known phrases being
replaced as a whole and the longest of several phrases winning. The base name is coarser still:
it also treats punctuation as space, and two nodes with the same base name are taken for the
same node.
-/

namespace NodeLocale

/-- A phrase of node names: its words and what replaces them. -/
structure Phrase where
  words : List String
  replacement : String
deriving DecidableEq

/-- Whether a word marks a version: a capital V and digits. -/
def isVersionMarker (word : String) : Bool :=
  match word.toList with
  | 'V' :: digit :: digits => (digit :: digits).all Text.isDecimalDigit
  | _ => false

/-- The last part of a plugin path, which names the artifacts of the plugin. -/
def pluginName (path : Path) : String :=
  match path.lastPart? with
  | some .up => ".."
  | some (.name text) => text
  | _ => "plugin"

/-- The phrases by which names are normalised, in the order of their declaration. -/
structure NameNormalizer where
  /-- The phrases. None of them is without words. -/
  phrases : List Phrase

namespace NameNormalizer

/-- The normaliser of a table of phrases. Phrases without words are left out. -/
def ofTable (table : OrderedMap String String) : NameNormalizer where
  phrases := (table.entries.map fun entry => ⟨Text.words entry.1, entry.2⟩).filter
    fun phrase => !phrase.words.isEmpty

def ofConfig (config : Config) : NameNormalizer := ofTable config.phrases

/-- The first phrase with the most words among those at the beginning of some words. -/
def longestIn (words : List String) : List Phrase → Option Phrase
  | [] => none
  | phrase :: rest =>
    if phrase.words.isPrefixOf words then
      match longestIn words rest with
      | none => some phrase
      | some other =>
        if phrase.words.length < other.words.length then some other else some phrase
    else longestIn words rest

/-- The phrase to replace at the beginning of some words. -/
def phraseAt? (normalizer : NameNormalizer) (words : List String) : Option Phrase :=
  longestIn words normalizer.phrases

/-- The pieces that make up the normal form of some words, the first `skipped` of which belong
to a phrase that has been replaced. -/
def pieces (normalizer : NameNormalizer) : Nat → List String → List String
  | _, [] => []
  | skipped + 1, _ :: rest => normalizer.pieces skipped rest
  | 0, word :: rest =>
    if isVersionMarker word then word :: normalizer.pieces 0 rest
    else
      match normalizer.phraseAt? (word :: rest) with
      | some phrase => phrase.replacement :: normalizer.pieces (phrase.words.length - 1) rest
      | none => word :: normalizer.pieces 0 rest

/-- The normal form of a name without its category. -/
def normalizeSuffix (normalizer : NameNormalizer) (suffix : String) : String :=
  String.join (normalizer.pieces 0 (Text.words suffix))

/-- The texts before and after the first colon. -/
def splitCategory? (name : String) : Option (String × String) :=
  let characters := name.toList
  match characters.dropWhile fun c => c != ':' with
  | [] => none
  | _ :: suffix =>
    some (String.ofList (characters.takeWhile fun c => c != ':'), String.ofList suffix)

def normalize (normalizer : NameNormalizer) (name : String) : String :=
  match splitCategory? name with
  | some (category, suffix) => Text.trim category ++ ": " ++ normalizer.normalizeSuffix suffix
  | none => normalizer.normalizeSuffix name

/-- Whether a character counts as space in a base name. -/
def isJoint (c : Char) : Bool := c = ':' || c = '-' || c = '_'

/-- The form of a name under which nodes are compared. -/
def baseName (normalizer : NameNormalizer) (name : String) : String :=
  let spaced := (normalizer.normalize name).toList.map fun c => if isJoint c then ' ' else c
  String.intercalate " " (Text.words (String.ofList spaced))

end NameNormalizer

end NodeLocale
