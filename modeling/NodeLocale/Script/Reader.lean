import NodeLocale.Script.Program
import NodeLocale.Script.Token

/-!
# Reading tokens

A reader of a part of a program takes tokens from the front and gives what they mean, or the
token at which they cease to mean anything. Of two readings that both fail the one that came
further decides where the fault is.
-/

namespace NodeLocale.Script

/-- Reads a part of a program from tokens, given the characters of the source. A failure is the
first token that does not fit. -/
abbrev Reader := ReaderT (Array Char) (StateT (List Token) (Except Token))

namespace Reader

def peek : Reader Token := do return (← get).headD default

/-- The token behind the next one. -/
def peekSecond : Reader Token := do return ((← get).drop 1).headD default

/-- Fails at the next token. -/
def fail {α : Type} : Reader α := do throw (← peek)

def take : Reader Token := do
  let token ← peek
  set ((← get).drop 1)
  return token

/-- The text of the source between two places. -/
def slice (start stop : Nat) : Reader String := do
  return String.ofList ((← read).extract start stop).toList

def isMark (mark : String) (token : Token) : Bool := token.kind = .mark && token.text = mark

def isWord (word : String) (token : Token) : Bool := token.kind = .name && token.text = word

/-- Takes a token that satisfies a test. -/
def expect (test : Token → Bool) : Reader Token := do
  if test (← peek) then take else fail

/-- Takes a given mark. -/
def mark (text : String) : Reader Token := expect (isMark text)

/-- Takes a given word. -/
def word (text : String) : Reader Token := expect (isWord text)

/-- Takes a token of a given kind. -/
def ofKind (kind : TokenKind) : Reader Token := expect fun token => token.kind = kind

/-- Takes a token that satisfies a test, if it is next. -/
def accept (test : Token → Bool) : Reader Bool := do
  if test (← peek) then
    let _ ← take
    return true
  else return false

/-- Takes a given mark, if it is next. -/
def acceptMark (text : String) : Reader Bool := accept (isMark text)

/-- Takes a given word, if it is next. -/
def acceptWord (text : String) : Reader Bool := accept (isWord text)

/-- The words that are no names. -/
def keywords : List String :=
  ["False", "None", "True", "and", "as", "assert", "async", "await", "break", "class", "continue",
    "def", "del", "elif", "else", "except", "finally", "for", "from", "global", "if", "import",
    "in", "is", "lambda", "nonlocal", "not", "or", "pass", "raise", "return", "try", "while",
    "with", "yield"]

/-- Whether a token is a name that is no keyword. -/
def isName (token : Token) : Bool := token.kind = .name && !keywords.contains token.text

def name : Reader Token := expect isName

/-- Tries a reading and, where it fails, another one from the same place. -/
def orElse {α : Type} (first second : Reader α) : Reader α := fun source tokens =>
  match first source tokens with
  | .ok found => .ok found
  | .error left =>
    match second source tokens with
    | .ok found => .ok found
    | .error right => .error (if left.start ≤ right.start then right else left)

/-- Repeats a reading until it finds nothing, at most so often. -/
def manyWithin {α : Type} (item : Reader (Option α)) : Nat → Reader (List α)
  | 0 => return []
  | fuel + 1 => do
    match ← item with
    | none => return []
    | some found => return found :: (← manyWithin item fuel)

/-- Repeats a reading until it finds nothing. -/
def many {α : Type} (item : Reader (Option α)) : Reader (List α) := do
  manyWithin item ((← get).length + 1)

/-- Reads items separated by commas, after the first of which the list may stop wherever no item
begins. Also says whether there was a comma. -/
def separated {α : Type} (begins : Token → Bool) (item : Reader α) :
    Reader (List α × Bool) := do
  let first ← item
  let more ← many do
    if ← acceptMark "," then
      if begins (← peek) then return some (some (← item)) else return some none
    else return none
  return (first :: more.filterMap id, !more.isEmpty)

/-- Reads items separated by commas up to a closing mark, which is taken. -/
def listUpTo {α : Type} (closer : String) (item : Reader α) : Reader (List α) := do
  if ← acceptMark closer then return []
  let (items, _) ← separated (fun token => !isMark closer token) item
  let _ ← mark closer
  return items

end Reader

end NodeLocale.Script
