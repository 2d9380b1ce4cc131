import NodeLocale.Json.Fault

/-!
# Decoding values

A decoder turns a value into something of a type of its own or says why that is impossible.
Records are decoded from objects by the names of their members or from arrays by their order.
An absent member may have a meaning in both forms or in objects alone.
-/

namespace NodeLocale.Json

/-- What a value is found to be by whoever wanted something else. -/
def found : Json → Found
  | null => .null
  | bool value => .boolean value
  | number value => .number value
  | string value => .string value
  | array _ => .sequence
  | object _ => .map

/-- A decoder of values. -/
abbrev Decoder (α : Type) := Json → Except Cause α

namespace Decoder

/-- The refusal of a value that is not of the expected type. -/
def refuse {α : Type} (expected : String) (json : Json) : Except Cause α :=
  .error (.invalidType json.found expected)

def text : Decoder String
  | .string value => .ok value
  | json => refuse "a string" json

/-- Decodes a truth value. -/
def truth : Decoder Bool
  | .bool value => .ok value
  | json => refuse "a boolean" json

/-- Decodes the null value. -/
def nothing : Decoder Unit
  | .null => .ok ()
  | json => refuse "unit" json

/-- Decodes a value that may be null. -/
def optional {α : Type} (item : Decoder α) : Decoder (Option α)
  | .null => .ok none
  | json => (item json).map some

def listOf {α : Type} (item : Decoder α) : Decoder (List α)
  | .array items => items.mapM item
  | json => refuse "a sequence" json

/-- Decodes a word out of a list of named values. A word may be the only key of an object, with
null as its value. -/
def oneOf {α : Type} (choices : List (String × α)) : Decoder α
  | .string word => choose word
  | .object [(word, value)] => do
    let choice ← choose word
    nothing value
    return choice
  | .object _ => .error (.invalidValue .map "map with a single key")
  | json => refuse "string or map" json
where
  /-- The value that a word names. -/
  choose (word : String) : Except Cause α :=
    match choices.find? fun choice => choice.1 = word with
    | some choice => .ok choice.2
    | none => .error (.unknownVariant word (choices.map Prod.fst))

end Decoder

/-- What an absent member means. -/
inductive Absence
  | refused
  /-- It is a fault in an array, and in an object the record keeps its initial value. -/
  | allowedInObject
  /-- The record keeps its initial value. -/
  | allowed
deriving DecidableEq

/-- A member of a record: its name, what its absence means and how its value changes the
record. -/
structure Member (σ : Type) where
  name : String
  absence : Absence
  /-- What a value does to the record. -/
  update : Decoder (σ → σ)

/-- A member that a decoder fills. -/
def Member.of {σ α : Type} (name : String) (absence : Absence) (item : Decoder α)
    (store : α → σ → σ) : Member σ :=
  ⟨name, absence, fun json => (item json).map store⟩

/-- The layout of a record: its name in messages, its members and its initial value. -/
structure Layout (σ : Type) where
  name : String
  members : List (Member σ)
  /-- The record before any member is decoded. -/
  initial : σ

namespace Layout

variable {σ : Type}

/-- The description of a record in messages. -/
def expected (layout : Layout σ) : String := "struct " ++ layout.name

/-- The description of the number of members. -/
def expectedLength (layout : Layout σ) : String :=
  let length := layout.members.length
  layout.expected ++ s!" with {length} element" ++ (if length = 1 then "" else "s")

/-- Decodes one member of an object; members of other names are passed over. -/
def decodeMember (layout : Layout σ) (state : σ) (entry : String × Json) : Except Cause σ :=
  match layout.members.find? fun member => member.name = entry.1 with
  | some member => do return (← member.update entry.2) state
  | none => .ok state

/-- Decodes the members of an object. -/
def ofMembers (layout : Layout σ) (entries : List (String × Json)) : Except Cause σ := do
  let decoded ← entries.foldlM layout.decodeMember layout.initial
  match layout.members.find? fun member =>
      member.absence = .refused && entries.all fun entry => entry.1 ≠ member.name with
  | some absent => throw (.missingField absent.name)
  | none => return decoded

/-- Decodes elements of an array as the given members, the first of which has the given
index. -/
def ofElements (layout : Layout σ) (total : Nat) :
    List (Member σ) → Nat → List Json → σ → Except Cause σ
  | [], _, [], state => .ok state
  | [], _, _ :: _, _ => .error (.invalidLength total "fewer elements in array")
  | member :: others, index, [], state =>
    if member.absence = .allowed then ofElements layout total others (index + 1) [] state
    else .error (.invalidLength index layout.expectedLength)
  | member :: others, index, item :: items, state => do
    let update ← member.update item
    ofElements layout total others (index + 1) items (update state)

def decode (layout : Layout σ) : Decoder σ
  | .object entries => layout.ofMembers entries
  | .array items => layout.ofElements items.length layout.members 0 items layout.initial
  | json => Decoder.refuse layout.expected json

end Layout

end NodeLocale.Json
