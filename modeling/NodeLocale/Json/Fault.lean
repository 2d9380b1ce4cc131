import NodeLocale.Json.Value
import NodeLocale.Text.Quoted

/-!
# Faults of JSON texts

A fault of a text has a cause and a place. The cause says what was wrong; the place is the
remaining text at which reading stopped, with a number of bytes beyond its beginning, so that
the line and the column are a function of the whole text and of the place alone. Columns count
bytes.
-/

namespace NodeLocale.Json

/-- What a reader found where it wanted something else. -/
inductive Found
  | null
  | boolean (value : Bool)
  | number (value : JsonNumber)
  | string (value : String)
  | sequence
  | map

/-- The description of what was found. -/
def Found.text : Found → String
  | null => "null"
  | boolean value => s!"boolean `{value}`"
  | number (.integer value) => s!"integer `{value}`"
  | number (.real value) => s!"floating point `{value.shortestText}`"
  | string value => "string " ++ Text.quoted value
  | sequence => "sequence"
  | map => "map"

/-- What is wrong with a text or with a value. -/
inductive Cause
  /-- The text ends where a value should stand. -/
  | eofInValue
  /-- The text ends inside an array. -/
  | eofInList
  /-- The text ends inside an object. -/
  | eofInObject
  /-- The text ends inside a string. -/
  | eofInString
  | expectedColon
  /-- A comma or the end of an array is missing. -/
  | expectedListEnd
  /-- A comma or the end of an object is missing. -/
  | expectedObjectEnd
  /-- A word other than those for null and the truth values. -/
  | expectedIdent
  /-- A character that begins no value. -/
  | expectedValue
  | invalidEscape
  | invalidNumber
  /-- A number beyond all doubles. -/
  | numberOutOfRange
  /-- A control character inside a string. -/
  | controlCharacter
  /-- An object whose key is no string. -/
  | keyMustBeString
  /-- A second half of a surrogate pair without the first. -/
  | loneSurrogate
  /-- A comma before the end of an array or object. -/
  | trailingComma
  /-- Text after the value. -/
  | trailingCharacters
  /-- A first half of a surrogate pair without the second. -/
  | unexpectedEndOfEscape
  /-- Too many nested arrays and objects. -/
  | recursionLimit
  /-- A value of another type. -/
  | invalidType (found : Found) (expected : String)
  /-- A value outside the range of its type. -/
  | invalidValue (found : Found) (expected : String)
  /-- A sequence with too few elements. -/
  | invalidLength (length : Nat) (expected : String)
  /-- A member that must be present is absent. -/
  | missingField (name : String)
  /-- A member that occurs twice. -/
  | duplicateField (name : String)
  /-- A word outside a closed list. -/
  | unknownVariant (name : String) (known : List String)

/-- A name between backticks. -/
def ticked (name : String) : String := "`" ++ name ++ "`"

def Cause.message : Cause → String
  | eofInValue => "EOF while parsing a value"
  | eofInList => "EOF while parsing a list"
  | eofInObject => "EOF while parsing an object"
  | eofInString => "EOF while parsing a string"
  | expectedColon => "expected `:`"
  | expectedListEnd => "expected `,` or `]`"
  | expectedObjectEnd => "expected `,` or `\x7d`"
  | expectedIdent => "expected ident"
  | expectedValue => "expected value"
  | invalidEscape => "invalid escape"
  | invalidNumber => "invalid number"
  | numberOutOfRange => "number out of range"
  | controlCharacter => "control character (\\u0000-\\u001F) found while parsing a string"
  | keyMustBeString => "key must be a string"
  | loneSurrogate => "lone leading surrogate in hex escape"
  | trailingComma => "trailing comma"
  | trailingCharacters => "trailing characters"
  | unexpectedEndOfEscape => "unexpected end of hex escape"
  | recursionLimit => "recursion limit exceeded"
  | invalidType found expected => "invalid type: " ++ found.text ++ ", expected " ++ expected
  | invalidValue found expected => "invalid value: " ++ found.text ++ ", expected " ++ expected
  | invalidLength length expected => s!"invalid length {length}, expected " ++ expected
  | missingField name => "missing field " ++ ticked name
  | duplicateField name => "duplicate field " ++ ticked name
  | unknownVariant name known =>
    "unknown variant " ++ ticked name ++ ", expected one of " ++
      String.intercalate ", " (known.map ticked)

/-- A fault of a text, before its place in the whole text is worked out. -/
structure Fault where
  cause : Cause
  /-- What remained of the text. -/
  rest : List Char
  /-- How many bytes beyond the beginning of the remaining text the fault is reported. -/
  ahead : Nat

/-- The number of bytes of a text. -/
def byteCount (text : List Char) : Nat := (text.map Char.utf8Size).foldr (· + ·) 0

/-- The line and the column that lie `offset` bytes into a text, from a given line on. -/
def placeFrom (line column : Nat) : Nat → List Char → Nat × Nat
  | _, [] => (line, column)
  | offset, c :: rest =>
    if offset = 0 then (line, column)
    else if offset < c.utf8Size then (line, column + offset)
    else if c = '\n' then placeFrom (line + 1) 0 (offset - c.utf8Size) rest
    else placeFrom line (column + c.utf8Size) (offset - c.utf8Size) rest

/-- The line and the column of a fault of a text. -/
def Fault.place (input : List Char) (fault : Fault) : Nat × Nat :=
  let total := byteCount input
  placeFrom 1 0 (min total (total - byteCount fault.rest + fault.ahead)) input

/-- The text of a fault, with its line and column. -/
def Fault.message (input : List Char) (fault : Fault) : String :=
  let (line, column) := fault.place input
  fault.cause.message ++ s!" at line {line} column {column}"

end NodeLocale.Json
