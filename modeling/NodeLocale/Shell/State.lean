import NodeLocale.Localization.Program
import NodeLocale.OrderedMap
import NodeLocale.Shell.Command

/-!
# The state of a shell

What a shell knows while it runs, and the words that its state makes of the words of a script.
How a script inside a word runs is a parameter, since it depends on how commands run.
-/

namespace NodeLocale.Shell

/-- What a shell knows while it runs. -/
structure State where
  tree : FileTree
  /-- The name by which it was called and the arguments. -/
  arguments : List String
  environment : List (String × String)
  input : ByteArray
  output : ByteArray := .empty
  /-- What it wrote about errors. -/
  errors : ByteArray := .empty
  /-- The code of the last command. -/
  code : Nat := 0
  /-- The line of the command that runs. -/
  line : Nat := 1
  /-- The code of the last script inside a word of that command. -/
  innerCode : Nat := 0

/-- Runs a script inside a word and gives its output. -/
abbrev InnerScript := State → String → State × String

/-- The text that stands for the number of the process of a shell. -/
def processNumber : String := "4711"

namespace State

/-- The name by which a shell was called. -/
def name (state : State) : String := state.arguments.headD "sh"

def valueOf (state : State) (name : String) : String :=
  if name = "$" then processNumber
  else if name = "?" then toString state.code
  else if name = "#" then toString (state.arguments.length - 1)
  else
    match name.toNat? with
    | some position => (state.arguments[position]?).getD ""
    | none => (Entries.find? name state.environment).getD ""

/-- Sets a variable. -/
def assign (state : State) (name value : String) : State :=
  { state with environment := Entries.upsert name value state.environment }

/-! ## Words -/

/-- Whether a character separates the words of a value. -/
def isGap (c : Char) : Bool := isBlank c || c = '\n'

/-- The words in a value that is not quoted. -/
def splitValue (value : String) : List String :=
  (value.splitToList isGap).filter fun word => word != ""

/-- Appends words to a word: the first one continues it. -/
def continueWord (finished : List String) (current : Option String) :
    List String → List String × Option String
  | [] => (finished, current)
  | [word] => (finished, some (current.getD "" ++ word))
  | word :: rest =>
    continueWord (finished ++ [current.getD "" ++ word]) none rest

/-- Appends the words in a value, which gaps at its ends set apart from what surrounds it. -/
def continueSplit (finished : List String) (current : Option String) (value : String) :
    List String × Option String :=
  let letters := value.toList
  let (finished, current) :=
    if letters.head?.any isGap then (finished ++ current.toList, none) else (finished, current)
  let (finished, current) := continueWord finished current (splitValue value)
  if letters.getLast?.any isGap then (finished ++ current.toList, none) else (finished, current)

/-- Appends a value to a word. -/
def continueValue (quoted : Bool) (words : List String × Option String) (value : String) :
    List String × Option String :=
  if quoted then (words.1, some (words.2.getD "" ++ value))
  else continueSplit words.1 words.2 value

/-- The words that the pieces of a word stand for. -/
def expandPieces (inner : InnerScript) : State → List Piece → List String × Option String →
    State × List String × Option String
  | state, [], words => (state, words)
  | state, .literal text :: rest, words =>
    expandPieces inner state rest (continueValue true words (String.ofList text))
  | state, .variable name fallback quoted :: rest, words =>
    let given := state.valueOf name
    let value := if given.isEmpty then String.ofList fallback else given
    expandPieces inner state rest (continueValue quoted words value)
  | state, .length name :: rest, words =>
    expandPieces inner state rest
      (continueValue true words (toString (state.valueOf name).utf8ByteSize))
  | state, .arguments quoted :: rest, (finished, current) =>
    let values := state.arguments.drop 1
    let words := if quoted then values else values.flatMap splitValue
    expandPieces inner state rest (continueWord finished current words)
  | state, .output script quoted :: rest, words =>
    let (state, value) := inner state (String.ofList script)
    expandPieces inner state rest (continueValue quoted words value)

def expand (inner : InnerScript) (state : State) (word : Word) : State × List String :=
  let start := if word.quoted && !(word.pieces.contains (.arguments true)) then some "" else none
  let (state, finished, current) := expandPieces inner state word.pieces ([], start)
  (state, finished ++ current.toList)

def expandAll (inner : InnerScript) (state : State) : List Word → State × List String
  | [] => (state, [])
  | word :: rest =>
    let (state, first) := state.expand inner word
    let (state, others) := expandAll inner state rest
    (state, first ++ others)

/-- A piece whose value stays one word. -/
def wholePiece : Piece → Piece
  | .variable name fallback _ => .variable name fallback true
  | .output script _ => .output script true
  | other => other

/-- The one text that a word stands for where no words are separated. -/
def expandWhole (inner : InnerScript) (state : State) (word : Word) : State × String :=
  let (state, words) := state.expand inner ⟨word.pieces.map wholePiece, word.quoted⟩
  (state, String.intercalate " " words)

/-- Sets variables one after another. -/
def assignAll (inner : InnerScript) (state : State) (settings : List Setting) : State :=
  settings.foldl (fun state setting =>
    let (state, value) := state.expandWhole inner setting.value
    state.assign setting.name value) state

end State

end NodeLocale.Shell
