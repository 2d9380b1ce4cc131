import NodeLocale.Json.Fault
import NodeLocale.Text.CharClass

/-!
# Reading JSON

A reader takes what it wants off the front of a list of characters and hands back the rest, or
stops with a fault. Structured readers are built from readers of their parts (`elements`,
`members`), so the same two loops read values of any shape (`value`) and of a shape that is
known beforehand (`listOf`, `mapOf`, and records in a module of their own). `skip` passes over a
value of which nothing is wanted.

Reading follows the order of the text: of two faults the one further to the front is reported,
whether it is a fault of the text or of the shape.
-/

namespace NodeLocale.Json

/-- Takes a value off the front of a text. -/
abbrev Reader (α : Type) := List Char → Except Fault (α × List Char)

namespace Reader

/-- A fault at the beginning of the remaining text. -/
def faultHere (cause : Cause) (rest : List Char) : Fault := ⟨cause, rest, 0⟩

/-- A fault that counts the next byte of the remaining text as read. -/
def faultNext (cause : Cause) (rest : List Char) : Fault := ⟨cause, rest, 1⟩

/-- Whether a character is white space between the tokens of a JSON text. -/
def isGap (c : Char) : Bool := c = ' ' || c = '\n' || c = '\t' || c = '\r'

/-- Drops the white space at the front. -/
def skipGap (text : List Char) : List Char := text.dropWhile isGap

/-- The value of four hexadecimal digits. -/
def fourHex? (a b c d : Char) : Option Nat := do
  let a ← Text.hexValue? a
  let b ← Text.hexValue? b
  let c ← Text.hexValue? c
  let d ← Text.hexValue? d
  return ((a * 16 + b) * 16 + c) * 16 + d

/-- The character that a single letter after a backslash stands for. -/
def simpleEscape? (letter : Char) : Option Char :=
  match letter with
  | '"' => some '"'
  | '\\' => some '\\'
  | '/' => some '/'
  | 'b' => some '\x08'
  | 'f' => some '\x0c'
  | 'n' => some '\n'
  | 'r' => some '\r'
  | 't' => some '\t'
  | _ => none

/-- The fault of four hexadecimal digits that are missing or are none. -/
def hexFault (rest : List Char) : Fault :=
  if 4 ≤ byteCount rest then ⟨.invalidEscape, rest, 4⟩ else faultHere .eofInString []

/-- Puts a character in front of what a reader of characters read. -/
def prepend (c : Char) : Except Fault (List Char × List Char) →
    Except Fault (List Char × List Char)
  | .ok (read, rest) => .ok (c :: read, rest)
  | .error fault => .error fault

/-- Reads the characters of a string up to and including the closing quote. -/
def stringBody : Reader (List Char)
  | [] => .error (faultHere .eofInString [])
  | c :: rest =>
    if c = '"' then .ok ([], rest)
    else if c = '\\' then
      match rest with
      | [] => .error (faultHere .eofInString [])
      | letter :: rest =>
        match simpleEscape? letter with
        | some escaped => prepend escaped (stringBody rest)
        | none =>
          if letter = 'u' then
            match rest with
            | a :: b :: c :: d :: rest' =>
              match fourHex? a b c d with
              | none => .error (hexFault (a :: b :: c :: d :: rest'))
              | some code =>
                if 0xdc00 ≤ code ∧ code ≤ 0xdfff then
                  .error (faultHere .loneSurrogate rest')
                else if code < 0xd800 ∨ 0xdbff < code then
                  prepend (Char.ofNat code) (stringBody rest')
                else
                  match rest' with
                  | [] => .error (faultHere .eofInString [])
                  | slash :: rest' =>
                    if slash = '\\' then
                      match rest' with
                      | [] => .error (faultHere .eofInString [])
                      | letter :: rest' =>
                        if letter = 'u' then
                          match rest' with
                          | a :: b :: c :: d :: rest'' =>
                            match fourHex? a b c d with
                            | none => .error (hexFault (a :: b :: c :: d :: rest''))
                            | some low =>
                              if 0xdc00 ≤ low ∧ low ≤ 0xdfff then
                                prepend
                                  (Char.ofNat ((code - 0xd800) * 0x400 + (low - 0xdc00) + 0x10000))
                                  (stringBody rest'')
                              else .error (faultHere .loneSurrogate rest'')
                          | short => .error (hexFault short)
                        else .error (faultNext .unexpectedEndOfEscape (letter :: rest'))
                    else .error (faultNext .unexpectedEndOfEscape (slash :: rest'))
            | short => .error (hexFault short)
          else .error (faultNext .invalidEscape (letter :: rest))
    else if c.toNat < 32 then .error (faultNext .controlCharacter (c :: rest))
    else prepend c (stringBody rest)

/-- Reads the rest of a string whose opening quote is gone. -/
def text (rest : List Char) : Except Fault (String × List Char) :=
  match stringBody rest with
  | .ok (read, rest) => .ok (String.ofList read, rest)
  | .error fault => .error fault

/-- Reads the given letters. -/
def word : List Char → Reader Unit
  | [], rest => .ok ((), rest)
  | _ :: _, [] => .error (faultHere .eofInValue [])
  | letter :: letters, c :: rest =>
    if c = letter then word letters rest else .error (faultNext .expectedIdent (c :: rest))

/-! ### Numbers -/

/-- Whether a character is one of the ten digits. -/
def isDigit (c : Char) : Bool := '0' ≤ c && c ≤ '9'

/-- The value of a digit. -/
def digitValue (c : Char) : Nat := c.toNat - '0'.toNat

/-- Appends digits to a number as long as it stays below two to the 64; gives the digits left. -/
def appendDigits (value : Nat) : List Char → Nat × List Char
  | [] => (value, [])
  | c :: rest =>
    if value * 10 + digitValue c < 2 ^ 64 then appendDigits (value * 10 + digitValue c) rest
    else (value, c :: rest)

/-- A power of ten as a double. -/
def powerOfTen (exponent : Nat) : Float := Float.ofScientific 1 false exponent

/-- Scales a double by a power of ten; none if the result is beyond all doubles. -/
def scale : Nat → Float → Int → Option Float
  | 0, value, _ => some value
  | fuel + 1, value, exponent =>
    if exponent.natAbs ≤ 308 then
      if 0 ≤ exponent then
        let scaled := value * powerOfTen exponent.natAbs
        if scaled.isInf then none else some scaled
      else some (value / powerOfTen exponent.natAbs)
    else if value == 0.0 then some value
    else if 0 ≤ exponent then none
    else scale fuel (value / powerOfTen 308) (exponent + 308)

/-- The double with the given sign, digits and power of ten. -/
def realNumber (positive : Bool) (significand : Nat) (exponent : Int) :
    Reader JsonNumber := fun rest =>
  match scale 8 (UInt64.ofNat significand).toFloat exponent with
  | some value => .ok (.real (.ofFloat (if positive then value else -value)), rest)
  | none => .error (faultHere .numberOutOfRange rest)

/-- Reads the digits of an exponent; `.inr` when they pass 31 bits, with what follows them. -/
def exponentDigits (value : Nat) : List Char → Sum (Nat × List Char) (List Char)
  | [] => .inl (value, [])
  | c :: rest =>
    if isDigit c then
      if value * 10 + digitValue c < 2 ^ 31 then
        exponentDigits (value * 10 + digitValue c) rest
      else .inr rest
    else .inl (value, c :: rest)

/-- Reads an exponent, of which the letter is gone, and finishes the number. -/
def exponentPart (positive : Bool) (significand : Nat) (exponent : Int) : Reader JsonNumber :=
  fun rest =>
  let (raised, rest) := match rest with
    | '+' :: rest => (true, rest)
    | '-' :: rest => (false, rest)
    | rest => (true, rest)
  match rest with
  | [] => .error (faultHere .eofInValue [])
  | c :: after =>
    if !isDigit c then .error (faultNext .invalidNumber (c :: after))
    else
      match exponentDigits (digitValue c) after with
      | .inl (value, rest) =>
        realNumber positive significand (if raised then exponent + value else exponent - value)
          rest
      | .inr rest =>
        if significand != 0 && raised then .error (faultHere .numberOutOfRange rest)
        else .ok (.real (.ofFloat (if positive then 0.0 else -0.0)), rest.dropWhile isDigit)

/-- Reads the places after a point, of which the point is gone, and finishes the number. -/
def fractionPart (positive : Bool) (significand : Nat) (exponent : Int) : Reader JsonNumber :=
  fun rest =>
  let digits := rest.takeWhile isDigit
  let after := rest.dropWhile isDigit
  if digits.isEmpty then
    match after with
    | [] => .error (faultHere .eofInValue [])
    | c :: after => .error (faultNext .invalidNumber (c :: after))
  else
    let (significand, left) := appendDigits significand digits
    let exponent := exponent - ((digits.length - left.length : Nat) : Int)
    match after with
    | 'e' :: after => exponentPart positive significand exponent after
    | 'E' :: after => exponentPart positive significand exponent after
    | after => realNumber positive significand exponent after

/-- Finishes a number after its whole part, of which `left` more digits did not fit. -/
def afterWhole (positive : Bool) (significand left : Nat) : Reader JsonNumber
  | '.' :: rest => fractionPart positive significand left rest
  | 'e' :: rest => exponentPart positive significand left rest
  | 'E' :: rest => exponentPart positive significand left rest
  | rest =>
    if left = 0 then
      if positive then .ok (.integer significand, rest)
      else if significand = 0 || 0x8000000000000000 < significand then
        .ok (.real (.ofFloat (-(UInt64.ofNat significand).toFloat)), rest)
      else .ok (.integer (-(significand : Int)), rest)
    else realNumber positive significand left rest

/-- Reads a number, of which a minus sign is gone. -/
def unsignedNumber (positive : Bool) : Reader JsonNumber
  | [] => .error (faultHere .eofInValue [])
  | '0' :: rest =>
    match rest with
    | [] => afterWhole positive 0 0 []
    | c :: after =>
      if isDigit c then .error (faultNext .invalidNumber (c :: after))
      else afterWhole positive 0 0 (c :: after)
  | c :: rest =>
    if isDigit c then
      let (significand, left) := appendDigits 0 (c :: rest.takeWhile isDigit)
      afterWhole positive significand left.length (rest.dropWhile isDigit)
    else .error (faultNext .invalidNumber (c :: rest))

/-- Reads a number at whose front a digit or a minus sign stands. -/
def number : Reader JsonNumber
  | '-' :: rest => unsignedNumber false rest
  | rest => unsignedNumber true rest

/-! ### Sequences and objects -/

/-- Reads elements up to the closing bracket, which stays; `first` before the first element. -/
def elements {α : Type} (element : Reader α) : Nat → Bool → Reader (List α)
  | 0, _, rest => .error (faultNext .eofInList rest)
  | fuel + 1, first, rest =>
    match skipGap rest with
    | [] => .error (faultNext .eofInList [])
    | c :: after =>
      let continueFrom (start : List Char) : Except Fault (List α × List Char) := do
        let (head, rest) ← element start
        let (tail, rest) ← elements element fuel false rest
        return (head :: tail, rest)
      if c = ']' then .ok ([], c :: after)
      else if first then continueFrom (c :: after)
      else if c = ',' then
        match skipGap after with
        | [] => .error (faultNext .eofInValue [])
        | d :: rest =>
          if d = ']' then .error (faultNext .trailingComma (d :: rest))
          else continueFrom (d :: rest)
      else .error (faultNext .expectedListEnd (c :: after))

/-- Passes the colon between a key and its value. -/
def colon : Reader Unit := fun rest =>
  match skipGap rest with
  | [] => .error (faultNext .eofInObject [])
  | c :: after =>
    if c = ':' then .ok ((), after) else .error (faultNext .expectedColon (c :: after))

/-- Reads members up to the closing brace, which stays, updating a state for each of them.
`member` is given the key and reads on right behind it. -/
def members {σ : Type} (member : String → σ → Reader σ) : Nat → Bool → σ → Reader σ
  | 0, _, _, rest => .error (faultNext .eofInObject rest)
  | fuel + 1, first, state, rest =>
    match skipGap rest with
    | [] => .error (faultNext .eofInObject [])
    | c :: after =>
      let continueFrom (start : List Char) : Except Fault (σ × List Char) := do
        let (key, rest) ← text start
        let (state, rest) ← member key state rest
        members member fuel false state rest
      if c = '\x7d' then .ok (state, c :: after)
      else if first then
        if c = '"' then continueFrom after else .error (faultNext .keyMustBeString (c :: after))
      else if c = ',' then
        match skipGap after with
        | [] => .error (faultNext .eofInValue [])
        | d :: rest =>
          if d = '"' then continueFrom rest
          else if d = '\x7d' then .error (faultNext .trailingComma (d :: rest))
          else .error (faultNext .keyMustBeString (d :: rest))
      else .error (faultNext .expectedObjectEnd (c :: after))

/-- Passes the end of an array. -/
def closeList : Reader Unit := fun rest =>
  match skipGap rest with
  | [] => .error (faultNext .eofInList [])
  | ']' :: after => .ok ((), after)
  | ',' :: after =>
    match skipGap after with
    | ']' :: rest => .error (faultNext .trailingComma (']' :: rest))
    | rest => .error (faultNext .trailingCharacters rest)
  | rest => .error (faultNext .trailingCharacters rest)

/-- Passes the end of an object. -/
def closeObject : Reader Unit := fun rest =>
  match skipGap rest with
  | [] => .error (faultNext .eofInObject [])
  | '\x7d' :: after => .ok ((), after)
  | ',' :: after => .error (faultNext .trailingComma (',' :: after))
  | rest => .error (faultNext .trailingCharacters rest)

/-- Reads a member whose value goes into a list of entries. -/
def entryOf {α : Type} (item : Reader α) (key : String) (written : List (String × α)) :
    Reader (List (String × α)) := fun rest => do
  let (_, rest) ← colon rest
  let (value, rest) ← item rest
  return (Entries.upsert key value written, rest)

/-! ### Values of any shape -/

/-- The number of nested arrays and objects at which reading stops. -/
def nestingLimit : Nat := 128

/-- Reads a value of any shape; the number says how much nesting is left. -/
def valueWithin : Nat → Reader Json
  | 0, rest => .error (faultNext .recursionLimit rest)
  | depth + 1, rest =>
    match skipGap rest with
    | [] => .error (faultNext .eofInValue [])
    | 'n' :: rest => do
      let (_, rest) ← word ['u', 'l', 'l'] rest
      return (.null, rest)
    | 't' :: rest => do
      let (_, rest) ← word ['r', 'u', 'e'] rest
      return (.bool true, rest)
    | 'f' :: rest => do
      let (_, rest) ← word ['a', 'l', 's', 'e'] rest
      return (.bool false, rest)
    | '"' :: rest => do
      let (value, rest) ← text rest
      return (.string value, rest)
    | '[' :: rest =>
      if depth = 0 then .error (faultNext .recursionLimit ('[' :: rest))
      else do
        let (items, rest) ← elements (valueWithin depth) (rest.length + 1) true rest
        let (_, rest) ← closeList rest
        return (.array items, rest)
    | '\x7b' :: rest =>
      if depth = 0 then .error (faultNext .recursionLimit ('\x7b' :: rest))
      else do
        let (entries, rest) ←
          members (entryOf (valueWithin depth)) (rest.length + 1) true [] rest
        let (_, rest) ← closeObject rest
        return (.object entries, rest)
    | c :: rest =>
      if c = '-' || isDigit c then do
        let (value, rest) ← number (c :: rest)
        return (.number value, rest)
      else .error (faultNext .expectedValue (c :: rest))

/-- Reads a value of any shape. -/
def value : Reader Json := valueWithin nestingLimit

/-! ### Values of which nothing is wanted -/

/-- Passes over the rest of a string. -/
def skipString : Reader Unit
  | [] => .error (faultHere .eofInString [])
  | c :: rest =>
    if c = '"' then .ok ((), rest)
    else if c = '\\' then
      match rest with
      | [] => .error (faultHere .eofInString [])
      | letter :: rest =>
        if (simpleEscape? letter).isSome then skipString rest
        else if letter = 'u' then
          match rest with
          | a :: b :: c :: d :: rest' =>
            match fourHex? a b c d with
            | none => .error (hexFault (a :: b :: c :: d :: rest'))
            | some _ => skipString rest'
          | short => .error (hexFault short)
        else .error (faultNext .invalidEscape (letter :: rest))
    else if c.toNat < 32 then .error (faultHere .controlCharacter (c :: rest))
    else skipString rest

/-- Passes over an exponent, of which the letter is gone. -/
def skipExponent : Reader Unit := fun rest =>
  let rest := match rest with
    | '+' :: rest => rest
    | '-' :: rest => rest
    | rest => rest
  match rest with
  | [] => .error (faultHere .invalidNumber [])
  | c :: after =>
    if isDigit c then .ok ((), after.dropWhile isDigit)
    else .error (faultNext .invalidNumber (c :: after))

/-- Passes over what follows the whole part of a number. -/
def skipAfterWhole : Reader Unit
  | '.' :: rest =>
    let after := rest.dropWhile isDigit
    if (rest.takeWhile isDigit).isEmpty then .error (faultNext .invalidNumber after)
    else
      match after with
      | 'e' :: after => skipExponent after
      | 'E' :: after => skipExponent after
      | after => .ok ((), after)
  | 'e' :: rest => skipExponent rest
  | 'E' :: rest => skipExponent rest
  | rest => .ok ((), rest)

/-- Passes over a number, of which a minus sign is gone. -/
def skipNumber : Reader Unit
  | [] => .error (faultHere .invalidNumber [])
  | '0' :: rest =>
    match rest with
    | [] => .ok ((), [])
    | c :: after =>
      if isDigit c then .error (faultNext .invalidNumber (c :: after))
      else skipAfterWhole (c :: after)
  | c :: rest =>
    if isDigit c then skipAfterWhole (rest.dropWhile isDigit)
    else .error (faultNext .invalidNumber (c :: rest))

/-- Whether an open array or object encloses the place at which a reader stands. -/
inductive Enclosing
  | list
  | object
deriving DecidableEq

/-- Where a pass over a value stands. -/
inductive SkipStep
  | before
  /-- After a value, or after an opening bracket if no comma may follow. -/
  | after (commaMayFollow : Bool)

/-- Passes over a value inside the given open arrays and objects, the innermost first. -/
def skipWithin : Nat → SkipStep → List Enclosing → Reader Unit
  | 0, _, _, rest => .error (faultNext .eofInValue rest)
  | fuel + 1, .before, open_, rest =>
    match skipGap rest with
    | [] => .error (faultNext .eofInValue [])
    | 'n' :: rest => do
      let (_, rest) ← word ['u', 'l', 'l'] rest
      skipWithin fuel (.after true) open_ rest
    | 't' :: rest => do
      let (_, rest) ← word ['r', 'u', 'e'] rest
      skipWithin fuel (.after true) open_ rest
    | 'f' :: rest => do
      let (_, rest) ← word ['a', 'l', 's', 'e'] rest
      skipWithin fuel (.after true) open_ rest
    | '"' :: rest => do
      let (_, rest) ← skipString rest
      skipWithin fuel (.after true) open_ rest
    | '-' :: rest => do
      let (_, rest) ← skipNumber rest
      skipWithin fuel (.after true) open_ rest
    | '[' :: rest => skipWithin fuel (.after false) (.list :: open_) rest
    | '\x7b' :: rest => skipWithin fuel (.after false) (.object :: open_) rest
    | c :: rest =>
      if isDigit c then do
        let (_, rest) ← skipNumber (c :: rest)
        skipWithin fuel (.after true) open_ rest
      else .error (faultNext .expectedValue (c :: rest))
  | _ + 1, .after _, [], rest => .ok ((), rest)
  | fuel + 1, .after commaMayFollow, innermost :: outer, rest =>
    let closing := match innermost with
      | .list => ']'
      | .object => '\x7d'
    let nextItem (rest : List Char) : Except Fault (Unit × List Char) :=
      match innermost with
      | .list => skipWithin fuel .before (innermost :: outer) rest
      | .object =>
        match skipGap rest with
        | [] => .error (faultNext .eofInObject [])
        | '"' :: rest => do
          let (_, rest) ← skipString rest
          let (_, rest) ← colon rest
          skipWithin fuel .before (innermost :: outer) rest
        | rest => .error (faultNext .keyMustBeString rest)
    match skipGap rest with
    | [] =>
      match innermost with
      | .list => .error (faultNext .eofInList [])
      | .object => .error (faultNext .eofInObject [])
    | c :: after =>
      if c = ',' && commaMayFollow then nextItem after
      else if c = closing then skipWithin fuel (.after true) outer after
      else if commaMayFollow then
        match innermost with
        | .list => .error (faultNext .expectedListEnd (c :: after))
        | .object => .error (faultNext .expectedObjectEnd (c :: after))
      else nextItem (c :: after)

/-- Passes over a value of any shape. -/
def skip : Reader Unit := fun rest => skipWithin (2 * rest.length + 2) .before [] rest

/-! ### Values of a known shape -/

/-- The fault of a value that is not of the expected type, given without white space in front. -/
def mismatch (expected : String) (rest : List Char) : Fault :=
  let wrong (found : Found) (rest : List Char) : Fault :=
    faultHere (.invalidType found expected) rest
  match rest with
  | 'n' :: after =>
    match word ['u', 'l', 'l'] after with
    | .ok (_, rest) => wrong .null rest
    | .error fault => fault
  | 't' :: after =>
    match word ['r', 'u', 'e'] after with
    | .ok (_, rest) => wrong (.boolean true) rest
    | .error fault => fault
  | 'f' :: after =>
    match word ['a', 'l', 's', 'e'] after with
    | .ok (_, rest) => wrong (.boolean false) rest
    | .error fault => fault
  | '"' :: after =>
    match text after with
    | .ok (value, rest) => wrong (.string value) rest
    | .error fault => fault
  | '[' :: after => wrong .sequence ('[' :: after)
  | '\x7b' :: after => wrong .map ('\x7b' :: after)
  | [] => faultNext .expectedValue []
  | c :: after =>
    if c = '-' || isDigit c then
      match number (c :: after) with
      | .ok (value, rest) => wrong (.number value) rest
      | .error fault => fault
    else faultNext .expectedValue (c :: after)

def string : Reader String := fun rest =>
  match skipGap rest with
  | [] => .error (faultNext .eofInValue [])
  | '"' :: rest => text rest
  | rest => .error (mismatch "a string" rest)

/-- Reads a truth value. -/
def boolean : Reader Bool := fun rest =>
  match skipGap rest with
  | [] => .error (faultNext .eofInValue [])
  | 't' :: rest => do
    let (_, rest) ← word ['r', 'u', 'e'] rest
    return (true, rest)
  | 'f' :: rest => do
    let (_, rest) ← word ['a', 'l', 's', 'e'] rest
    return (false, rest)
  | rest => .error (mismatch "a boolean" rest)

/-- Reads a number and converts it. -/
def numberAs {α : Type} (expected : String) (convert : JsonNumber → Except Cause α) :
    Reader α := fun rest =>
  match skipGap rest with
  | [] => .error (faultNext .eofInValue [])
  | c :: rest =>
    if c = '-' || isDigit c then do
      let (read, rest) ← number (c :: rest)
      match convert read with
      | .ok value => return (value, rest)
      | .error cause => throw (faultHere cause rest)
    else .error (mismatch expected (c :: rest))

/-- An integer that is not negative, under the name that messages give to its type. -/
def unsignedOf (type : String) : JsonNumber → Except Cause Nat
  | .integer value =>
    if value < 0 then .error (.invalidValue (.number (.integer value)) type)
    else .ok value.toNat
  | .real value => .error (.invalidType (.number (.real value)) type)

/-- Reads an integer that is not negative. -/
def unsigned (type : String) : Reader Nat := numberAs type (unsignedOf type)

/-- Reads a double. -/
def double : Reader Binary64 := numberAs "f64" fun read => .ok read.toBinary64

/-- Reads a sequence. -/
def listOf {α : Type} (element : Reader α) : Reader (List α) := fun rest =>
  match skipGap rest with
  | [] => .error (faultNext .eofInValue [])
  | '[' :: rest => do
    let (items, rest) ← elements element (rest.length + 1) true rest
    let (_, rest) ← closeList rest
    return (items, rest)
  | rest => .error (mismatch "a sequence" rest)

/-- Reads a member whose value goes into a map. -/
def insertMember {α : Type} (item : Reader α) (key : String) (map : OrderedMap String α) :
    Reader (OrderedMap String α) := fun rest => do
  let (_, rest) ← colon rest
  let (value, rest) ← item rest
  return (map.insert key value, rest)

/-- Reads an object whose members are all of one shape. -/
def mapOf {α : Type} (item : Reader α) : Reader (OrderedMap String α) := fun rest =>
  match skipGap rest with
  | [] => .error (faultNext .eofInValue [])
  | '\x7b' :: rest => do
    let (map, rest) ← members (insertMember item) (rest.length + 1) true ∅ rest
    let (_, rest) ← closeObject rest
    return (map, rest)
  | rest => .error (mismatch "a map" rest)

/-- Reads a value that may be null. -/
def optional {α : Type} (item : Reader α) : Reader (Option α) := fun rest =>
  match skipGap rest with
  | 'n' :: rest => do
    let (_, rest) ← word ['u', 'l', 'l'] rest
    return (none, rest)
  | rest => do
    let (value, rest) ← item rest
    return (some value, rest)

/-- Reads a whole text, after which only white space may follow. -/
def readAll {α : Type} (reader : Reader α) (input : String) : Except Fault α := do
  let (value, rest) ← reader input.toList
  match skipGap rest with
  | [] => return value
  | rest => throw (faultNext .trailingCharacters rest)

/-- Reads a whole text; a fault is given by its message. -/
def readText {α : Type} (reader : Reader α) (input : String) : Except String α :=
  match readAll reader input with
  | .ok value => .ok value
  | .error fault => .error (fault.message input.toList)

end Reader

end NodeLocale.Json
