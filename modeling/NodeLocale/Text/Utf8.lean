/-!
# Bytes as text

Files hold bytes. A reader that needs text accepts UTF-8 only, and says where the first byte
stands that is not part of it; a report shows every longest piece that cannot begin a character
as a replacement character. Both are decided by `firstUnit`, which reads one unit off a list of
bytes.
-/

namespace NodeLocale.Text.Utf8

/-- What stands at the front of a list of bytes. -/
inductive Front
  /-- A whole character. -/
  | scalar (c : Char)
  /-- So many bytes that cannot begin a character. -/
  | broken (bytes : Nat)
  /-- The beginning of a character that the end of the bytes cuts off. -/
  | truncated

def isContinuation (byte : UInt8) : Bool := 0x80 ≤ byte && byte ≤ 0xbf

/-- Whether a second byte may follow a first one of a character of at least three bytes. -/
def followsLead (lead second : UInt8) : Bool :=
  if lead = 0xe0 then 0xa0 ≤ second && second ≤ 0xbf
  else if lead = 0xed then 0x80 ≤ second && second ≤ 0x9f
  else if lead = 0xf0 then 0x90 ≤ second && second ≤ 0xbf
  else if lead = 0xf4 then 0x80 ≤ second && second ≤ 0x8f
  else isContinuation second

/-- Adds the payload of a continuation byte to a code point. -/
def extend (code : Nat) (byte : UInt8) : Nat := code * 64 + byte.toNat % 64

/-- Reads one unit off the bytes `lead :: rest`; the number is the count of bytes it takes. -/
def firstUnit (lead : UInt8) (rest : List UInt8) : Front × Nat :=
  if lead < 0x80 then (.scalar (Char.ofNat lead.toNat), 1)
  else if 0xc2 ≤ lead && lead ≤ 0xdf then
    match rest with
    | [] => (.truncated, 1)
    | second :: _ =>
      if isContinuation second then
        (.scalar (Char.ofNat (extend (lead.toNat % 32) second)), 2)
      else (.broken 1, 1)
  else if 0xe0 ≤ lead && lead ≤ 0xef then
    match rest with
    | [] => (.truncated, 1)
    | second :: rest =>
      if followsLead lead second then
        match rest with
        | [] => (.truncated, 2)
        | third :: _ =>
          if isContinuation third then
            (.scalar (Char.ofNat (extend (extend (lead.toNat % 16) second) third)), 3)
          else (.broken 2, 2)
      else (.broken 1, 1)
  else if 0xf0 ≤ lead && lead ≤ 0xf4 then
    match rest with
    | [] => (.truncated, 1)
    | second :: rest =>
      if followsLead lead second then
        match rest with
        | [] => (.truncated, 2)
        | third :: rest =>
          if isContinuation third then
            match rest with
            | [] => (.truncated, 3)
            | fourth :: _ =>
              if isContinuation fourth then
                (.scalar (Char.ofNat
                  (extend (extend (extend (lead.toNat % 8) second) third) fourth)), 4)
              else (.broken 3, 3)
          else (.broken 2, 2)
      else (.broken 1, 1)
  else (.broken 1, 1)

/-- Shows bytes as text, with a replacement character for every piece that is none. -/
def showChars : Nat → List UInt8 → List Char
  | _, [] => []
  | 0, _ => []
  | fuel + 1, lead :: rest =>
    match firstUnit lead rest with
    | (.scalar c, size) => c :: showChars fuel (rest.drop (size - 1))
    | (.broken _, size) => '\ufffd' :: showChars fuel (rest.drop (size - 1))
    | (.truncated, _) => ['\ufffd']

/-- Shows bytes as text, with a replacement character for every piece that is none. -/
def display (bytes : ByteArray) : String :=
  match String.fromUTF8? bytes with
  | some text => text
  | none => String.ofList (showChars bytes.size bytes.toList)

/-- Where and how bytes stop being text. -/
structure Fault where
  /-- The index of the first byte that is not part of the text. -/
  index : Nat
  /-- The number of bytes that cannot begin a character; none if the end cuts one off. -/
  length? : Option Nat

def Fault.message (fault : Fault) : String :=
  match fault.length? with
  | some length => s!"invalid utf-8 sequence of {length} bytes from index {fault.index}"
  | none => s!"incomplete utf-8 byte sequence from index {fault.index}"

/-- The first fault at or after an index, where the bytes from there on are given. -/
def faultFrom : Nat → Nat → List UInt8 → Option Fault
  | _, _, [] => none
  | 0, _, _ => none
  | fuel + 1, index, lead :: rest =>
    match firstUnit lead rest with
    | (.scalar _, size) => faultFrom fuel (index + size) (rest.drop (size - 1))
    | (.broken length, _) => some ⟨index, some length⟩
    | (.truncated, _) => some ⟨index, none⟩

/-- The first fault of some bytes. -/
def fault? (bytes : ByteArray) : Option Fault := faultFrom bytes.size 0 bytes.toList

end NodeLocale.Text.Utf8
