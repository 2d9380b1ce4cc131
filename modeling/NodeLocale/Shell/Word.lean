/-!
# Shell words

A word of a script is made of pieces, since quotes may begin and end inside it and variables and
the output of other scripts may occur in it. A script inside a word is kept as text and is read
when it runs.
-/

namespace NodeLocale.Shell

/-- A piece of a word. -/
inductive Piece
  | literal (text : List Char)
  /-- The value of a variable, or a text if it is empty, split at blanks unless it is quoted. -/
  | variable (name : String) (fallback : List Char) (quoted : Bool)
  /-- The length of the value of a variable. -/
  | length (name : String)
  | arguments (quoted : Bool)
  /-- The output of a script, split at blanks unless it is quoted. -/
  | output (script : List Char) (quoted : Bool)
deriving DecidableEq

/-- A word, and whether quotes occur in it, so that it counts even when it is empty. -/
structure Word where
  pieces : List Piece
  quoted : Bool
deriving DecidableEq

/-- Why a script cannot be read. -/
inductive Fault
  /-- A quotation does not end. -/
  | unterminatedQuote
  /-- A brace behind a dollar sign is not closed. -/
  | missingBrace
  /-- A quotation by backquotes does not end. -/
  | unterminatedBackquote
  /-- Something stands where it may not stand, and perhaps something else is wanted there. -/
  | unexpected (found : String) (wanted : Option String)

def Fault.message : Fault → String
  | unterminatedQuote => "Syntax error: Unterminated quoted string"
  | missingBrace => "Syntax error: Missing '\x7d'"
  | unterminatedBackquote => "Syntax error: EOF in backquote substitution"
  | unexpected found none => "Syntax error: " ++ found ++ " unexpected"
  | unexpected found (some wanted) =>
    "Syntax error: " ++ found ++ " unexpected (expecting " ++ wanted ++ ")"

/-- Whether a character separates words. -/
def isBlank (c : Char) : Bool := c = ' ' || c = '\t'

/-- Whether a character may belong to the name of a variable. -/
def isNameChar (c : Char) : Bool := c.isAlphanum || c = '_'

def endsWord (c : Char) : Bool := isBlank c || ";&|<>\n()".toList.contains c

/-- Adds a literal character to the pieces of a word, which are given backwards. -/
def addChar (pieces : List Piece) (c : Char) : List Piece :=
  match pieces with
  | .literal text :: rest => .literal (text ++ [c]) :: rest
  | _ => .literal [c] :: pieces

/-! ## Scripts inside words -/

/-- What surrounds a character of a script inside a word. -/
inductive Enclosure
  | parentheses
  | single
  | double
  | backslash
deriving DecidableEq

/-- What surrounds the character behind one that stands in given enclosures. -/
def enclosuresAfter (enclosures : List Enclosure) (before : Option Char) (c : Char) :
    List Enclosure :=
  let opensScript := before = some '$' && c = '('
  match enclosures with
  | .backslash :: outer => outer
  | .single :: outer => if c = '\'' then outer else enclosures
  | .double :: outer =>
    if c = '"' then outer
    else if c = '\\' then .backslash :: enclosures
    else if opensScript then .parentheses :: enclosures
    else enclosures
  | _ =>
    if c = ')' then enclosures.drop 1
    else if c = '(' then .parentheses :: enclosures
    else if c = '"' then .double :: enclosures
    else if c = '\'' then .single :: enclosures
    else if c = '\\' then .backslash :: enclosures
    else enclosures

/-- Splits at the parenthesis that leaves all enclosures. The text so far is given backwards. -/
def splitAtParenthesis : List Enclosure → List Char → List Char →
    Except Fault (List Char × List Char)
  | enclosures, _, [] =>
    match enclosures.head? with
    | some .parentheses => .error (.unexpected "end of file" (some "\")\""))
    | _ => .error .unterminatedQuote
  | enclosures, text, c :: rest =>
    let next := enclosuresAfter enclosures text.head? c
    if next.isEmpty then .ok (text.reverse, rest) else splitAtParenthesis next (c :: text) rest

/-- Splits at a backquote. The text so far is given backwards. -/
def splitAtBackquote : List Char → List Char → Except Fault (List Char × List Char)
  | _, [] => .error .unterminatedBackquote
  | text, '\\' :: c :: rest =>
    if "$\\\x60".toList.contains c then splitAtBackquote (c :: text) rest
    else splitAtBackquote (c :: '\\' :: text) rest
  | text, c :: rest =>
    if c = '\x60' then .ok (text.reverse, rest) else splitAtBackquote (c :: text) rest

/-! ## Variables -/

/-- The piece that stands between the braces behind a dollar sign. -/
def bracedPiece (quoted : Bool) (content : List Char) : Piece :=
  match content with
  | '#' :: name@(_ :: _) => .length (String.ofList name)
  | _ =>
    let ofName := content.takeWhile isNameChar
    let name := if ofName.isEmpty then content.take 1 else ofName
    match content.drop name.length with
    | ':' :: '-' :: fallback => .variable (String.ofList name) fallback quoted
    | '-' :: fallback => .variable (String.ofList name) fallback quoted
    | _ =>
      if name = ['@'] || name = ['*'] then .arguments quoted
      else .variable (String.ofList name) [] quoted

/-- Reads what follows a dollar sign: the piece, and what remains. -/
def readVariable (quoted : Bool) (rest : List Char) : Except Fault (Piece × List Char) :=
  match rest with
  | '@' :: rest => .ok (.arguments quoted, rest)
  | '*' :: rest => .ok (.arguments quoted, rest)
  | '(' :: rest => do
    let (script, rest) ← splitAtParenthesis [.parentheses] [] rest
    return (.output script quoted, rest)
  | '\x7b' :: rest =>
    let content := rest.takeWhile fun c => c != '\x7d'
    match rest.drop content.length with
    | _ :: rest => .ok (bracedPiece quoted content, rest)
    | [] => .error .missingBrace
  | c :: rest =>
    if "$?#0123456789".toList.contains c then
      .ok (.variable (String.singleton c) [] quoted, rest)
    else if isNameChar c then
      let name := (c :: rest).takeWhile isNameChar
      .ok (.variable (String.ofList name) [] quoted, (c :: rest).drop name.length)
    else .ok (.literal ['$'], c :: rest)
  | [] => .ok (.literal ['$'], [])

/-! ## Words -/

/-- The quotation that a reader of words is in. -/
inductive Quotation
  | bare
  | single
  | double

/-- Reads the rest of a word. The pieces so far are given backwards. -/
def readWordWithin : Nat → Quotation → List Piece → Bool → List Char →
    Except Fault (Word × List Char)
  | 0, _, _, _, _ => .error .unterminatedQuote
  | _ + 1, .bare, pieces, quoted, [] => .ok (⟨pieces.reverse, quoted⟩, [])
  | _ + 1, _, _, _, [] => .error .unterminatedQuote
  | fuel + 1, .single, pieces, quoted, c :: rest =>
    if c = '\'' then readWordWithin fuel .bare pieces quoted rest
    else readWordWithin fuel .single (addChar pieces c) quoted rest
  | fuel + 1, .double, pieces, quoted, c :: rest =>
    if c = '"' then readWordWithin fuel .bare pieces quoted rest
    else if c = '\\' then
      match rest with
      | d :: rest =>
        if "$\"\\\x60".toList.contains d then
          readWordWithin fuel .double (addChar pieces d) quoted rest
        else if d = '\n' then readWordWithin fuel .double pieces quoted rest
        else readWordWithin fuel .double (addChar (addChar pieces c) d) quoted rest
      | [] => .error .unterminatedQuote
    else if c = '$' then do
      let (piece, rest) ← readVariable true rest
      readWordWithin fuel .double (piece :: pieces) quoted rest
    else if c = '\x60' then do
      let (script, rest) ← splitAtBackquote [] rest
      readWordWithin fuel .double (.output script true :: pieces) quoted rest
    else readWordWithin fuel .double (addChar pieces c) quoted rest
  | fuel + 1, .bare, pieces, quoted, c :: rest =>
    if endsWord c then .ok (⟨pieces.reverse, quoted⟩, c :: rest)
    else if c = '\'' then readWordWithin fuel .single pieces true rest
    else if c = '"' then readWordWithin fuel .double pieces true rest
    else if c = '\\' then
      match rest with
      | '\n' :: rest => readWordWithin fuel .bare pieces quoted rest
      | d :: rest => readWordWithin fuel .bare (addChar pieces d) true rest
      | [] => readWordWithin fuel .bare (addChar pieces c) quoted []
    else if c = '$' then do
      let (piece, rest) ← readVariable false rest
      readWordWithin fuel .bare (piece :: pieces) quoted rest
    else if c = '\x60' then do
      let (script, rest) ← splitAtBackquote [] rest
      readWordWithin fuel .bare (.output script false :: pieces) quoted rest
    else readWordWithin fuel .bare (addChar pieces c) quoted rest

def readWord (text : List Char) : Except Fault (Word × List Char) :=
  readWordWithin (2 * text.length + 1) .bare [] false text

/-- The text of a word that consists of letters only. -/
def Word.bareText? (word : Word) : Option String :=
  match word.pieces with
  | [.literal text] => if word.quoted then none else some (String.ofList text)
  | _ => none

/-- Whether bytes have the form of a pattern, in which an asterisk stands for any bytes and a
question mark for one. -/
def fitsPattern : List UInt8 → List UInt8 → Bool
  | [], bytes => bytes.isEmpty
  | 42 :: pattern, bytes => fitsSome pattern bytes
  | c :: pattern, d :: bytes => (c = 63 || c = d) && fitsPattern pattern bytes
  | _ :: _, [] => false
where
  /-- Whether some end of the bytes has the form of a pattern. -/
  fitsSome (pattern : List UInt8) : List UInt8 → Bool
    | [] => fitsPattern pattern []
    | d :: bytes => fitsPattern pattern (d :: bytes) || fitsSome pattern bytes

end NodeLocale.Shell
