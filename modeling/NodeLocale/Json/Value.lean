import NodeLocale.Decimal.Shortest
import NodeLocale.OrderedMap

/-!
# JSON values

The artifacts of this library are JSON. An object is the list of its members in the order of
the text; whatever builds an object writes its members one after another, so a repeated key
keeps its first position and takes its last value.

Integers are kept exactly as far as 64 bits reach, and every other number is a double.
-/

namespace NodeLocale

/-- A number of a JSON text. -/
inductive JsonNumber
  | integer (value : Int)
  | real (value : Binary64)
deriving DecidableEq

namespace JsonNumber

def text : JsonNumber → String
  | integer value => toString value
  | real value => value.shortestText

/-- Whether an integer fits the range in which a reader keeps integers exact. -/
def InRange : JsonNumber → Prop
  | integer value => -0x8000000000000000 ≤ value ∧ value < 0x10000000000000000
  | real _ => True

/-- The double nearest to a number. -/
def toBinary64 : JsonNumber → Binary64
  | integer value =>
    let magnitude := (UInt64.ofNat value.natAbs).toFloat
    .ofFloat (if value < 0 then -magnitude else magnitude)
  | real value => value

end JsonNumber

/-- A JSON value. -/
inductive Json
  | null
  | bool (value : Bool)
  | number (value : JsonNumber)
  | string (value : String)
  | array (items : List Json)
  | object (members : List (String × Json))
deriving Inhabited

/-- An object at the root of an artifact. -/
abbrev JsonObject := OrderedMap String Json

namespace Json

/-- An ordered mapping as an object. -/
def ofMap (map : JsonObject) : Json := .object map.entries

def ofStrings (texts : List String) : Json := .array (texts.map .string)

def ofNat (value : Nat) : Json := .number (.integer value)

/-- How messages name the kind of a value. -/
def kind : Json → String
  | null => "null"
  | bool _ => "a boolean"
  | number _ => "a number"
  | string _ => "a string"
  | array _ => "an array"
  | object _ => "an object"

/-- The member of an object under a name; other values have no members. -/
def member? (name : String) : Json → Option Json
  | object members => Entries.find? name members
  | _ => none

def members? : Json → Option (List (String × Json))
  | object members => some members
  | _ => none

/-! ### Equality -/

mutual

/-- Whether two values are the same. -/
def same : Json → Json → Bool
  | null, null => true
  | bool left, bool right => left = right
  | number left, number right => left = right
  | string left, string right => left = right
  | array left, array right => sameItems left right
  | object left, object right => sameMembers left right
  | _, _ => false

/-- Whether two lists hold the same values. -/
def sameItems : List Json → List Json → Bool
  | [], [] => true
  | left :: lefts, right :: rights => same left right && sameItems lefts rights
  | _, _ => false

/-- Whether two lists hold the same members. -/
def sameMembers : List (String × Json) → List (String × Json) → Bool
  | [], [] => true
  | (key, left) :: lefts, (other, right) :: rights =>
    key = other && same left right && sameMembers lefts rights
  | _, _ => false

end

mutual

theorem same_iff : (left right : Json) → (same left right = true ↔ left = right)
  | null, right => by cases right <;> simp [same]
  | bool _, right => by cases right <;> simp [same]
  | number _, right => by cases right <;> simp [same]
  | string _, right => by cases right <;> simp [same]
  | array items, right => by cases right <;> simp [same, sameItems_iff items]
  | object members, right => by cases right <;> simp [same, sameMembers_iff members]

theorem sameItems_iff : (left right : List Json) → (sameItems left right = true ↔ left = right)
  | [], right => by cases right <;> simp [sameItems]
  | item :: rest, right => by
    cases right <;> simp [sameItems, same_iff item, sameItems_iff rest]

theorem sameMembers_iff : (left right : List (String × Json)) →
    (sameMembers left right = true ↔ left = right)
  | [], right => by cases right <;> simp [sameMembers]
  | (key, item) :: rest, right => by
    cases right <;> simp [sameMembers, same_iff item, sameMembers_iff rest, Prod.ext_iff]

end

instance : DecidableEq Json := fun left right => decidable_of_iff _ (same_iff left right)
end Json

end NodeLocale
