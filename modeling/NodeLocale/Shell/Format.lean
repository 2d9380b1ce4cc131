/-!
# Formats

Commands that print replace escapes in texts, and formats hold places at which arguments are
written. Escapes may stand for single bytes, so what is written is bytes.
-/

namespace NodeLocale.Shell

/-! ## Escapes -/

/-- The letters that escapes stand for. -/
def letterEscape? (letter : Char) : Option Char :=
  match letter with
  | 'n' => some '\n'
  | 't' => some '\t'
  | 'r' => some '\r'
  | 'a' => some '\x07'
  | 'b' => some '\x08'
  | 'e' => some '\x1b'
  | 'f' => some '\x0c'
  | 'v' => some '\x0b'
  | '\\' => some '\\'
  | _ => none

/-- Whether a character is an octal digit. -/
def isOctal (c : Char) : Bool := '0' ≤ c && c ≤ '7'

/-- The byte that octal digits stand for. -/
def octalByte (digits : List Char) : UInt8 :=
  UInt8.ofNat (digits.foldl (fun value c => 8 * value + (c.toNat - '0'.toNat)) 0)

def charBytes (c : Char) : ByteArray := (String.singleton c).toUTF8

/-- Reads an escape behind its backslash: its bytes, and what remains. -/
def readEscape (rest : List Char) : ByteArray × List Char :=
  let digits := (rest.take 3).takeWhile isOctal
  if digits.isEmpty then
    match rest with
    | letter :: after =>
      match letterEscape? letter with
      | some decoded => (charBytes decoded, after)
      | none => (charBytes '\\', rest)
    | [] => (charBytes '\\', [])
  else (⟨#[octalByte digits]⟩, rest.drop digits.length)

/-- A text without the zero that begins a number of octal digits. -/
def withoutZero (rest : List Char) : List Char :=
  match rest with
  | '0' :: c :: _ => if isOctal c then rest.drop 1 else rest
  | _ => rest

/-- A text with its escapes replaced, and whether one of them ends all output. -/
def escapedWithin : Nat → List Char → ByteArray × Bool
  | 0, _ => (.empty, false)
  | _ + 1, [] => (.empty, false)
  | _ + 1, '\\' :: 'c' :: _ => (.empty, true)
  | fuel + 1, '\\' :: rest =>
    let (bytes, rest) := readEscape (withoutZero rest)
    let (others, stops) := escapedWithin fuel rest
    (bytes ++ others, stops)
  | fuel + 1, c :: rest =>
    let (others, stops) := escapedWithin fuel rest
    (charBytes c ++ others, stops)

/-- A text with its escapes replaced, and whether one of them ends all output. -/
def escaped (text : String) : ByteArray × Bool := escapedWithin (text.length + 1) text.toList

/-! ## Formats -/

/-- As what the next argument is written. -/
inductive PlaceKind
  | text
  | escaped
  | number (base : Nat)
  | first

/-- How the next argument is written. -/
structure Place where
  kind : PlaceKind
  /-- Whether it stands at the left of its width. -/
  leftmost : Bool
  /-- Whether zeros fill its width. -/
  zeros : Bool
  width : Nat

/-- The kind that a letter stands for. -/
def PlaceKind.ofLetter? (letter : Char) : Option PlaceKind :=
  match letter with
  | 's' => some text
  | 'b' => some escaped
  | 'd' => some (number 10)
  | 'i' => some (number 10)
  | 'u' => some (number 10)
  | 'x' => some (number 16)
  | 'o' => some (number 8)
  | 'c' => some first
  | _ => none

/-- A part of a format. -/
inductive FormatPart
  | bytes (bytes : ByteArray)
  | argument (place : Place)
  | invalid (directive : String)

/-- Reads a directive behind its percent sign: the part, and what remains. -/
def readDirective (rest : List Char) : FormatPart × List Char :=
  let flags := rest.takeWhile fun c => "-0 +#".toList.contains c
  let afterFlags := rest.drop flags.length
  let width := afterFlags.takeWhile Char.isDigit
  match afterFlags.drop width.length with
  | letter :: after =>
    match PlaceKind.ofLetter? letter with
    | some kind =>
      (.argument
        ⟨kind, flags.contains '-', flags.contains '0', (String.ofList width).toNat?.getD 0⟩,
        after)
    | none => (.invalid (String.ofList (['%'] ++ flags ++ width ++ [letter])), after)
  | [] => (.invalid (String.ofList (['%'] ++ flags ++ width)), [])

def readFormat : Nat → List Char → List FormatPart
  | 0, _ => []
  | _ + 1, [] => []
  | fuel + 1, '\\' :: rest =>
    let (bytes, rest) := readEscape rest
    .bytes bytes :: readFormat fuel rest
  | fuel + 1, '%' :: '%' :: rest => .bytes (charBytes '%') :: readFormat fuel rest
  | fuel + 1, '%' :: rest =>
    let (part, rest) := readDirective rest
    part :: readFormat fuel rest
  | fuel + 1, c :: rest => .bytes (charBytes c) :: readFormat fuel rest

/-- The number of arguments that a format takes. -/
def placeCount (parts : List FormatPart) : Nat :=
  parts.countP fun part =>
    match part with
    | .argument _ => true
    | _ => false

/-- The digits of a base at the beginning of a text. -/
def leadingDigits (base : Nat) (text : List Char) : List Nat :=
  (text.takeWhile fun c => (digitOf? c).any (· < base)).filterMap digitOf?
where
  digitOf? (c : Char) : Option Nat :=
    if c.isDigit then some (c.toNat - '0'.toNat)
    else
      let lowered := c.toLower
      if 'a' ≤ lowered && lowered ≤ 'f' then some (lowered.toNat - 'a'.toNat + 10) else none

/-- The base that the beginning of a number names, and what follows it. -/
def baseOf (text : List Char) : Nat × List Char :=
  match text with
  | '0' :: 'x' :: rest => (16, rest)
  | '0' :: 'X' :: rest => (16, rest)
  | '0' :: _ => (8, text)
  | _ => (10, text)

/-- The number at the beginning of a text, and what is wrong with the text if it is none. -/
def readNumber (text : String) : Int × Option String :=
  let (negative, unsigned) :=
    match text.toList with
    | '-' :: rest => (true, rest)
    | '+' :: rest => (false, rest)
    | rest => (false, rest)
  let (base, rest) := baseOf unsigned
  let digits := leadingDigits base rest
  let value := digits.foldl (fun value digit => base * value + digit) 0
  let fault :=
    if text.isEmpty then none
    else if digits.isEmpty then some (text ++ ": expected numeric value")
    else if digits.length < rest.length then some (text ++ ": not completely converted")
    else none
  (if negative then -(value : Int) else value, fault)

def numberText (base : Nat) (value : Int) : String :=
  let digits := String.ofList (Nat.toDigits base value.natAbs)
  if value < 0 then "-" ++ digits else digits

/-- Fills a text up to the width of a place. -/
def Place.fill (place : Place) (text : String) : String :=
  let missing := place.width - text.utf8ByteSize
  if place.leftmost then text ++ String.ofList (List.replicate missing ' ')
  else
    match place.kind, text.toList with
    | .number _, '-' :: digits =>
      if place.zeros then "-" ++ String.ofList (List.replicate missing '0' ++ digits)
      else String.ofList (List.replicate missing ' ' ++ '-' :: digits)
    | .number _, digits =>
      String.ofList (List.replicate missing (if place.zeros then '0' else ' ') ++ digits)
    | _, letters => String.ofList (List.replicate missing ' ' ++ letters)

/-- Output so far, what the shell reports, and whether the output ended. -/
structure Written where
  bytes : ByteArray := .empty
  reports : List String := []
  code : Nat := 0
  ended : Bool := false

/-- Writes an argument, if there is one, at a place. -/
def Place.write (place : Place) (argument : Option String) (written : Written) : Written :=
  let text := argument.getD ""
  match place.kind with
  | .text => { written with bytes := written.bytes ++ (place.fill text).toUTF8 }
  | .escaped =>
    let (bytes, stops) := Shell.escaped text
    { written with bytes := written.bytes ++ bytes, ended := stops }
  | .number base =>
    let (value, fault) :=
      match argument with
      | some text => readNumber text
      | none => (0, none)
    { written with
      bytes := written.bytes ++ (place.fill (numberText base value)).toUTF8
      reports := written.reports ++ fault.toList
      code := if fault.isSome then 1 else written.code }
  | .first =>
    { written with
      bytes := written.bytes ++ ⟨#[text.toUTF8.toList.headD 0]⟩ }

/-- Writes the parts of a format once. -/
def fillFormat : List FormatPart → List String → Written → Written
  | [], _, written => written
  | part :: parts, arguments, written =>
    if written.ended then written
    else
      match part with
      | .bytes bytes => fillFormat parts arguments { written with bytes := written.bytes ++ bytes }
      | .argument place =>
        fillFormat parts (arguments.drop 1) (place.write arguments.head? written)
      | .invalid directive =>
        { written with
          reports := written.reports ++ [directive ++ ": invalid directive"]
          code := 2
          ended := true }

/-- Writes a format as often as there are arguments for it, and once at least. -/
def writeFormat (parts : List FormatPart) : Nat → List String → Written → Written
  | 0, _, written => written
  | fuel + 1, arguments, written =>
    let places := placeCount parts
    let written := fillFormat parts arguments written
    if written.ended || places = 0 || arguments.length ≤ places then written
    else writeFormat parts fuel (arguments.drop places) written

end NodeLocale.Shell
