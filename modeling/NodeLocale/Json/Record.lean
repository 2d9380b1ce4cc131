import NodeLocale.Json.Reader

/-!
# Reading records

A record is read from an object by the names of its fields, members of other names being passed
over, or from an array by the order of its fields. A field that is absent keeps the value that
the record starts with, unless it is required. A field may not occur twice.
-/

namespace NodeLocale.Json

open Reader

/-- A field of a record: its name and how its value changes the record. -/
structure Field (σ : Type) where
  name : String
  /-- Whether the member must be present. -/
  required : Bool
  /-- Reads the value and says what it does to the record. -/
  update : Reader (σ → σ)

/-- A field that a reader fills. -/
def field {σ α : Type} (name : String) (item : Reader α) (store : α → σ → σ) : Field σ :=
  ⟨name, false, fun rest => do
    let (value, rest) ← item rest
    return (store value, rest)⟩

/-- A field that must be present. -/
def requiredField {σ α : Type} (name : String) (item : Reader α) (store : α → σ → σ) :
    Field σ :=
  { field name item store with required := true }

/-- A record type: its name in messages, its fields and its value when nothing is given. -/
structure Record (σ : Type) where
  name : String
  fields : List (Field σ)
  /-- The record before any field is read. -/
  initial : σ

namespace Record

variable {σ : Type}

/-- The description of a record type in messages. -/
def expected (record : Record σ) : String := "struct " ++ record.name

/-- The remaining text behind an object whose reading was given up at some place. -/
def behindObject (rest : List Char) : List Char :=
  match skipGap rest with
  | '\x7d' :: after => after
  | rest => rest

/-- Reads one member into the record and the names seen so far. -/
def member (record : Record σ) (key : String) (state : σ × List String) :
    Reader (σ × List String) := fun rest =>
  match record.fields.find? fun field => field.name = key with
  | some found =>
    if key ∈ state.2 then
      .error (faultHere (.duplicateField key) (behindObject rest))
    else do
      let (_, rest) ← colon rest
      let (update, rest) ← found.update rest
      return ((update state.1, key :: state.2), rest)
  | none => do
    let (_, rest) ← colon rest
    let (_, rest) ← skip rest
    return (state, rest)

/-- The first required field that is not among the names seen. -/
def missing? (record : Record σ) (seen : List String) : Option (Field σ) :=
  record.fields.find? fun field => field.required && !seen.contains field.name

/-- Reads the members of an object whose opening brace is gone. -/
def ofMembers (record : Record σ) : Reader σ := fun rest => do
  let ((read, seen), rest) ←
    members record.member (rest.length + 1) true (record.initial, []) rest
  match record.missing? seen with
  | some absent => throw (faultHere (.missingField absent.name) (behindObject rest))
  | none =>
    let (_, rest) ← closeObject rest
    return (read, rest)

/-- Moves to the next element of an array; none at its end, which stays. -/
def nextElement (first : Bool) : Reader Bool := fun rest =>
  match skipGap rest with
  | [] => .error (faultNext .eofInList [])
  | c :: after =>
    if c = ']' then .ok (false, c :: after)
    else if first then .ok (true, c :: after)
    else if c = ',' then
      match skipGap after with
      | [] => .error (faultNext .eofInValue [])
      | d :: rest =>
        if d = ']' then .error (faultNext .trailingComma (d :: rest))
        else .ok (true, d :: rest)
    else .error (faultNext .expectedListEnd (c :: after))

/-- Reads the fields of a record from the elements of an array, from a given index on. -/
def ofElements (record : Record σ) : List (Field σ) → Nat → σ → Reader σ
  | [], _, state, rest => .ok (state, rest)
  | next :: others, index, state, rest => do
    let (present, rest) ← nextElement (index == 0) rest
    if present then
      let (update, rest) ← next.update rest
      ofElements record others (index + 1) (update state) rest
    else if next.required then
      let expected :=
        record.expected ++ " with " ++ toString record.fields.length ++ " elements"
      throw (faultHere (.invalidLength index expected) (rest.drop 1))
    else ofElements record others (index + 1) state rest

def read (record : Record σ) : Reader σ := fun rest =>
  match skipGap rest with
  | [] => .error (faultNext .eofInValue [])
  | '\x7b' :: rest => record.ofMembers rest
  | '[' :: rest => do
    let (read, rest) ← record.ofElements record.fields 0 record.initial rest
    let (_, rest) ← closeList rest
    return (read, rest)
  | rest => .error (mismatch record.expected rest)

end Record

end NodeLocale.Json
