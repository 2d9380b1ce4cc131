import NodeLocale.Script.Quotation
import NodeLocale.Text.Letter

/-!
# Tokens

Source text is read as a sequence of tokens. Where a logical line ends outside all brackets
there is a token for its end, and where a line is indented more deeply behind a colon, or less
deeply than before, there are tokens for the beginning and the ends of blocks. Blank lines and
comments leave no trace.

Reading ends at the first character that begins no token and at the first bracket that closes
nothing; what stands there is an invalid token.
-/

namespace NodeLocale.Script

/-- The kinds of tokens. -/
inductive TokenKind
  | name
  | number
  /-- A string literal that encloses an expression, or none. -/
  | string (interpolated : Bool)
  /-- An operator, a bracket or another mark. -/
  | mark
  | lineEnd
  | blockStart
  | blockEnd
  | sourceEnd
  | invalid
deriving DecidableEq

/-- A token, with its place in the source. -/
structure Token where
  kind : TokenKind
  text : String
  /-- The index of the first character. -/
  start : Nat
  /-- The index behind the last character. -/
  stop : Nat
  /-- The line on which the token begins, counted from 1. -/
  line : Nat

instance : Inhabited Token := ⟨⟨.sourceEnd, "", 0, 0, 1⟩⟩

/-- An open bracket and its line. -/
structure OpenBracket where
  /-- The bracket that would close it. -/
  closer : String
  line : Nat

/-- How far the source has been read. -/
structure Lexer where
  rest : List Char
  index : Nat := 0
  line : Nat := 1
  /-- Whether it is the beginning of a logical line. -/
  atLineStart : Bool := true
  /-- The indentations of the open blocks, innermost first. -/
  indents : List Nat := []
  /-- The open brackets, innermost first. -/
  brackets : List OpenBracket := []
  /-- The tokens so far, last first. -/
  tokens : List Token := []

/-- The length of a run of digits of some kind, between which single underscores may stand. -/
def digitRun (isDigit : Char → Bool) : List Char → Nat
  | [] => 0
  | c :: rest =>
    if isDigit c then digitRun isDigit rest + 1
    else if c = '_' && rest.head?.any isDigit then digitRun isDigit rest + 1
    else 0

/-- Whether a character is a digit of the given radix. -/
def isRadixDigit (radix : Nat) (c : Char) : Bool :=
  match Text.hexValue? c with
  | some value => value < radix
  | none => false

/-- The radix that a letter behind a zero announces. -/
def radixOf? (c : Char) : Option Nat :=
  if c = 'x' || c = 'X' then some 16
  else if c = 'o' || c = 'O' then some 8
  else if c = 'b' || c = 'B' then some 2
  else none

/-- The length of the fraction with which a text begins, its point included. -/
def fractionLength : List Char → Nat
  | '.' :: rest => digitRun (isRadixDigit 10) rest + 1
  | _ => 0

/-- The length of the exponent with which a text begins. -/
def exponentLength : List Char → Nat
  | c :: rest =>
    if c = 'e' || c = 'E' then
      let sign := if rest.head? = some '+' || rest.head? = some '-' then 1 else 0
      let digits := digitRun (isRadixDigit 10) (rest.drop sign)
      if digits = 0 then 0 else 1 + sign + digits
    else 0
  | [] => 0

/-- The length of the decimal number with which a text begins. -/
def decimalLength (text : List Char) : Nat :=
  let whole := digitRun (isRadixDigit 10) text
  let fraction := fractionLength (text.drop whole)
  let exponent := exponentLength (text.drop (whole + fraction))
  let length := whole + fraction + exponent
  if ((text.drop length).head?.any fun c => "jJlL".toList.contains c) then length + 1 else length

/-- The length of the number with which a text begins. -/
def numberLength (text : List Char) : Nat :=
  match text with
  | '0' :: letter :: rest =>
    match radixOf? letter with
    | some radix =>
      let digits := digitRun (isRadixDigit radix) rest
      if digits = 0 then 1 else 2 + digits
    | none => decimalLength text
  | _ => decimalLength text

/-- Whether a text begins with a number. -/
def beginsNumber : List Char → Bool
  | '.' :: c :: _ => isRadixDigit 10 c
  | c :: _ => isRadixDigit 10 c
  | [] => false

/-- The length of the name with which a text begins. -/
def nameLength : List Char → Nat
  | c :: rest =>
    if Text.isIdentifierStart c then (rest.takeWhile Text.isIdentifierContinue).length + 1 else 0
  | [] => 0

/-- The marks of more than one character, longer ones first. -/
def longMarks : List String :=
  ["**=", "//=", ">>=", "<<=", "...", "->", ":=", "==", "!=", "<=", ">=", "**", "//", "<<", ">>",
    "+=", "-=", "*=", "/=", "%=", "&=", "|=", "^=", "@="]

/-- The marks of one character. -/
def shortMarks : List Char := "+-*/%@&|^~<>()[]\x7b\x7d,:.;=$?!".toList

/-- The mark with which a text begins. -/
def mark? (text : List Char) : Option String :=
  match longMarks.find? fun mark => mark.toList.isPrefixOf text with
  | some mark => some mark
  | none =>
    match text with
    | c :: _ => if shortMarks.contains c then some (String.singleton c) else none
    | [] => none

/-- The bracket that closes an opening bracket. -/
def closerOf? (mark : String) : Option String :=
  if mark = "(" then some ")"
  else if mark = "[" then some "]"
  else if mark = "\x7b" then some "\x7d"
  else none

/-- Whether a mark is a closing bracket. -/
def isCloser (mark : String) : Bool := mark = ")" || mark = "]" || mark = "\x7d"

/-- Whether a character separates tokens without ending a line. -/
def isSpacing (c : Char) : Bool :=
  c = ' ' || c = '\t' || c = '\r' || c = '\x0c' || c.toNat = 0xfeff || c.toNat = 0x2060 ||
    c.toNat = 0x200b

/-- The indentation that spacing amounts to: a tab counts eight, and a form feed starts anew. -/
def indentation (spacing : List Char) : Nat :=
  spacing.foldl
    (fun width c =>
      if c = ' ' then width + 1
      else if c = '\t' then width + 8
      else if c = '\x0c' || c = '\r' then 0
      else width)
    0

namespace Lexer

/-- Moves over some characters. -/
def advance (lexer : Lexer) (count : Nat) : Lexer :=
  { lexer with
    rest := lexer.rest.drop count
    index := lexer.index + count
    line := lexer.line + (lexer.rest.take count).count '\n' }

/-- Records a token that consists of the next characters, and moves over them. -/
def emit (lexer : Lexer) (kind : TokenKind) (count : Nat) : Lexer :=
  let token : Token :=
    { kind
      text := String.ofList (lexer.rest.take count)
      start := lexer.index
      stop := lexer.index + count
      line := lexer.line }
  { lexer.advance count with tokens := token :: lexer.tokens }

/-- Records what remains as invalid, and gives up. -/
def giveUp (lexer : Lexer) : Lexer :=
  let lexer := lexer.emit .invalid 1
  { lexer with rest := [] }

/-- The text of the last token before the end of the line before. -/
def lastMark (lexer : Lexer) : Option String :=
  (lexer.tokens.find? fun token => token.kind != .lineEnd).map Token.text

/-- The indentation of the innermost block. -/
def indent (lexer : Lexer) : Nat := lexer.indents.headD 0

/-- Ends the blocks that are indented more deeply than a given width. -/
def endBlocks (lexer : Lexer) (width : Nat) : Lexer :=
  let ended := lexer.indents.takeWhile fun indent => width < indent
  let lexer := ended.foldl (fun lexer _ => lexer.emit .blockEnd 0) lexer
  { lexer with indents := lexer.indents.drop ended.length }

/-- Begins a logical line that is indented by a given width. -/
def beginLine (lexer : Lexer) (width : Nat) : Lexer :=
  let lexer :=
    if lexer.indent < width then
      if lexer.lastMark = some ":" then
        { lexer.emit .blockStart 0 with indents := width :: lexer.indents }
      else lexer
    else lexer.endBlocks width
  { lexer with atLineStart := false }

/-- Reads the beginning of a physical line outside all brackets. -/
def stepAtLineStart (lexer : Lexer) : Lexer :=
  let spacing := lexer.rest.takeWhile isSpacing
  let lexer := lexer.advance spacing.length
  match lexer.rest with
  | [] => lexer
  | '\n' :: _ => lexer.advance 1
  | '#' :: _ => lexer.advance (lexer.rest.takeWhile fun c => c != '\n').length
  | _ => lexer.beginLine (indentation spacing)

def stepMark (lexer : Lexer) (mark : String) : Lexer :=
  match closerOf? mark with
  | some closer =>
    let opened : OpenBracket := ⟨closer, lexer.line⟩
    { lexer.emit .mark mark.length with brackets := opened :: lexer.brackets }
  | none =>
    if isCloser mark then
      match lexer.brackets with
      | innermost :: outer =>
        if innermost.closer = mark then
          { lexer.emit .mark mark.length with brackets := outer }
        else lexer.giveUp
      | [] => lexer.giveUp
    else lexer.emit .mark mark.length

/-- Reads a token that begins with a letter, a digit, a quote or a mark. -/
def stepToken (lexer : Lexer) : Lexer :=
  match openedLiteral? lexer.rest with
  | some form =>
    match literalExtent? form lexer.rest with
    | some (length, interpolated) => lexer.emit (.string interpolated) length
    | none => lexer.giveUp
  | none =>
    let length := nameLength lexer.rest
    if 0 < length then lexer.emit .name length
    else if beginsNumber lexer.rest then lexer.emit .number (numberLength lexer.rest)
    else
      match mark? lexer.rest with
      | some mark => lexer.stepMark mark
      | none => lexer.giveUp

/-- Reads the end of a physical line. -/
def stepLineEnd (lexer : Lexer) : Lexer :=
  if lexer.brackets.isEmpty then { lexer.emit .lineEnd 1 with atLineStart := true }
  else lexer.advance 1

/-- Reads one token, or something between tokens. -/
def step (lexer : Lexer) : Lexer :=
  if lexer.atLineStart then lexer.stepAtLineStart
  else
    match lexer.rest with
    | [] => lexer
    | '\n' :: _ => lexer.stepLineEnd
    | '\\' :: '\n' :: _ => lexer.advance 2
    | '\\' :: '\r' :: '\n' :: _ => lexer.advance 3
    | '#' :: rest => lexer.advance ((rest.takeWhile fun c => c != '\n').length + 1)
    | c :: _ => if isSpacing c then lexer.advance 1 else lexer.stepToken

/-- Reads the whole source; every second step at least takes a character. -/
def run : Nat → Lexer → Lexer
  | 0, lexer => lexer
  | fuel + 1, lexer => if lexer.rest.isEmpty then lexer else run fuel lexer.step

/-- Ends the line, the blocks and the source. -/
def finish (lexer : Lexer) : Lexer :=
  let lexer :=
    if lexer.atLineStart || !lexer.brackets.isEmpty then lexer else lexer.emit .lineEnd 0
  (lexer.endBlocks 0).emit .sourceEnd 0

end Lexer

/-- The tokens of a source, and the brackets that it never closes, innermost first. -/
structure Lexed where
  /-- The tokens, ending with the end of the source. -/
  tokens : List Token
  unclosed : List OpenBracket

def lex (source : List Char) : Lexed :=
  let lexer := (Lexer.run (2 * source.length + 2) { rest := source }).finish
  ⟨lexer.tokens.reverse, lexer.brackets⟩

end NodeLocale.Script
