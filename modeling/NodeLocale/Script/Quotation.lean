import NodeLocale.Script.Literal

/-!
# The extent of string literals

Where a string literal ends. In a formatted literal braces enclose expressions, which may hold
string literals again, and a colon in them starts a format that may hold expressions. The scan
keeps the stack of what is open and goes through the text once, one character at a time.
-/

namespace NodeLocale.Script

/-- How a string literal is written. -/
structure StringForm where
  quote : Char
  /-- Whether three quotes stand at each end. -/
  tripled : Bool
  /-- Whether a backslash begins no escape. -/
  raw : Bool
  /-- Whether braces enclose expressions. -/
  formatted : Bool

namespace StringForm

/-- The number of quotes at each end. -/
def width (form : StringForm) : Nat := if form.tripled then 3 else 1

/-- Whether a text begins with the quotes that end the literal. -/
def closedBy (form : StringForm) (text : List Char) : Bool :=
  (List.replicate form.width form.quote).isPrefixOf text

/-- Whether a character may stand in front of the quotes of a literal. -/
def isLetter (c : Char) : Bool := "fFrRbBuU".toList.contains c

/-- The form of a literal with the given letters in front of a text that begins with quotes. -/
def ofOpening? (letters : List Char) : List Char → Option StringForm
  | quote :: rest =>
    if Literal.isQuote quote && letters.all isLetter then
      some {
        quote
        tripled := Literal.isTripled (quote :: rest)
        raw := letters.any fun c => c = 'r' || c = 'R'
        formatted := letters.any fun c => c = 'f' || c = 'F' }
    else none
  | [] => none

end StringForm

/-- What may be open inside a string literal. -/
inductive Enclosure
  | text (form : StringForm)
  | charName
  /-- An expression with so many brackets open, with the letters of the word that is being read.
  It is blank as long as nothing of it was read. -/
  | expression (depth : Nat) (blank : Bool) (word : List Char)
  | format

/-- What one character does to the enclosures: those that are open afterwards, the number of
further characters that it takes along, and whether it begins an expression. -/
structure Scanned where
  /-- What is open, innermost first. -/
  frames : List Enclosure
  /-- How many of the next characters belong to this one. -/
  taken : Nat := 0
  /-- Whether an expression began. -/
  interpolates : Bool := false

namespace Enclosure

def freshExpression : Enclosure := .expression 0 true []

/-- Scans a character of the text of a literal. -/
def scanText (form : StringForm) (outer : List Enclosure) (c : Char) (rest : List Char) :
    Option Scanned :=
  let here := .text form :: outer
  if c = '\\' then
    match rest with
    | '\r' :: '\n' :: _ => some ⟨here, 2, false⟩
    | 'N' :: '\x7b' :: _ =>
      if form.formatted && !form.raw then some ⟨.charName :: here, 2, false⟩
      else some ⟨here, 1, false⟩
    | '\x7b' :: _ => if form.formatted then some ⟨here, 0, false⟩ else some ⟨here, 1, false⟩
    | '\x7d' :: _ => if form.formatted then some ⟨here, 0, false⟩ else some ⟨here, 1, false⟩
    | _ => some ⟨here, 1, false⟩
  else if form.closedBy (c :: rest) then some ⟨outer, form.width - 1, false⟩
  else if c = '\n' && !form.tripled then none
  else if form.formatted && c = '\x7b' then
    if rest.head? = some '\x7b' then some ⟨here, 1, false⟩
    else some ⟨freshExpression :: here, 0, true⟩
  else if form.formatted && c = '\x7d' then
    if rest.head? = some '\x7d' then some ⟨here, 1, false⟩ else none
  else some ⟨here, 0, false⟩

/-- Whether a character may belong to a word. -/
def continuesWord (c : Char) : Bool := c.isAlphanum || c = '_'

def scanExpression (depth : Nat) (blank : Bool) (word : List Char) (outer : List Enclosure)
    (c : Char) (rest : List Char) : Option Scanned :=
  match StringForm.ofOpening? word (c :: rest) with
  | some form =>
    some ⟨.text form :: .expression depth false [] :: outer, form.width - 1, false⟩
  | none =>
    if Literal.isQuote c then
      (StringForm.ofOpening? [] (c :: rest)).map fun form =>
        ⟨.text form :: .expression depth false [] :: outer, form.width - 1, false⟩
    else if c = '(' || c = '[' || c = '\x7b' then
      some ⟨.expression (depth + 1) false [] :: outer, 0, false⟩
    else if c = '\x7d' && depth = 0 then
      if blank then none else some ⟨outer, 0, false⟩
    else if c = ')' || c = ']' || c = '\x7d' then
      if depth = 0 then none else some ⟨.expression (depth - 1) false [] :: outer, 0, false⟩
    else if c = ':' && depth = 0 then
      if blank then none else some ⟨.format :: outer, 0, false⟩
    else if continuesWord c then some ⟨.expression depth false (word ++ [c]) :: outer, 0, false⟩
    else
      some ⟨.expression depth (blank && (c = ' ' || c = '\t' || c = '\n')) [] :: outer, 0, false⟩

/-- Whether the literal around a format is ended by a character. -/
def endsAround (c : Char) : List Enclosure → Bool
  | .text form :: _ => !form.tripled && (c = form.quote || c = '\n')
  | _ => false

def scanFormat (outer : List Enclosure) (c : Char) : Option Scanned :=
  if c = '\x7b' then some ⟨freshExpression :: .format :: outer, 0, false⟩
  else if c = '\x7d' then some ⟨outer, 0, false⟩
  else if endsAround c outer then none
  else some ⟨.format :: outer, 0, false⟩

/-- Scans a character of the innermost enclosure. -/
def scan (frame : Enclosure) (outer : List Enclosure) (c : Char) (rest : List Char) :
    Option Scanned :=
  match frame with
  | text form => scanText form outer c rest
  | charName => if c = '\x7d' then some ⟨outer, 0, false⟩ else some ⟨.charName :: outer, 0, false⟩
  | expression depth blank word => scanExpression depth blank word outer c rest
  | format => scanFormat outer c

end Enclosure

/-- Follows a text until nothing is open any more. Gives what remains and whether an expression
was enclosed; none if the text ends before. -/
def scanEnclosures : List Enclosure → Nat → Bool → List Char → Option (List Char × Bool)
  | [], 0, interpolated, rest => some (rest, interpolated)
  | _, _ + 1, _, [] => none
  | frames, taken + 1, interpolated, _ :: rest => scanEnclosures frames taken interpolated rest
  | _ :: _, 0, _, [] => none
  | frame :: outer, 0, interpolated, c :: rest =>
    match frame.scan outer c rest with
    | none => none
    | some next =>
      scanEnclosures next.frames next.taken (interpolated || next.interpolates) rest

/-- The letters in front of the quotes of a literal. -/
def literalLetters (text : List Char) : List Char := text.takeWhile StringForm.isLetter

/-- The form of the literal with which a text begins. -/
def openedLiteral? (text : List Char) : Option StringForm :=
  StringForm.ofOpening? (literalLetters text) (text.dropWhile StringForm.isLetter)

/-- The length of the literal of a given form with which a text begins, and whether it encloses
an expression; none if the literal does not end. -/
def literalExtent? (form : StringForm) (text : List Char) : Option (Nat × Bool) :=
  let opening := (literalLetters text).length + form.width
  (scanEnclosures [.text form] 0 false (text.drop opening)).map fun (rest, interpolated) =>
    (text.length - rest.length, interpolated)

end NodeLocale.Script
