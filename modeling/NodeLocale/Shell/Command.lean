import NodeLocale.Shell.Word

/-!
# Shell commands

Translators are often a line of shell. A script is a list of pipelines, each of which runs
depending on how the one before it ended; a pipeline is a list of commands, and a command either
consists of words or is made of scripts of its own. A script is read line by line, so that the
lines before a fault run.
-/

namespace NodeLocale.Shell

/-- What is redirected. -/
inductive Stream
  | input
  | output
  /-- What is written about errors. -/
  | errors
deriving DecidableEq

/-- Where a stream is redirected to. -/
inductive Redirection
  /-- The input comes from a file. -/
  | read (file : Word)
  | write (stream : Stream) (file : Word)
  | append (stream : Stream) (file : Word)
  /-- A stream goes where another one goes. -/
  | follow (stream target : Stream)
  /-- A stream goes nowhere. -/
  | close (stream : Stream)
deriving DecidableEq

/-- When a pipeline runs, depending on the one before it. -/
inductive Condition
  | always
  | onSuccess
  | onFailure
deriving DecidableEq

/-- A variable and the word to whose text it is set. -/
structure Setting where
  name : String
  value : Word

mutual

/-- A command. -/
inductive Command
  /-- Variables that are set, and a program with its arguments, on a line. -/
  | words (line : Nat) (settings : List Setting) (words : List Word)
      (redirections : List Redirection)
  /-- Something that is made of scripts and begins on a line. -/
  | compound (line : Nat) (form : Compound) (redirections : List Redirection)

/-- A command that is made of scripts. -/
inductive Compound
  /-- A script in braces. -/
  | group (steps : List Step)
  /-- A script in parentheses, which keeps its variables to itself. -/
  | separate (steps : List Step)
  /-- One of two scripts, depending on how another one ends. -/
  | choice (condition consequence alternative : List Step)
  /-- The first script one of whose patterns a word fits. -/
  | selection (subject : Word) (cases : List Case)
  /-- A script for each of some words. -/
  | repetition (name : String) (words : List Word) (body : List Step)

/-- A script and the patterns for which it runs. -/
inductive Case
  | mk (patterns : List Word) (body : List Step)

/-- A pipeline and when it runs. -/
inductive Step
  /-- The condition, whether success and failure change places, and the commands, each of which
  reads what the one before it writes. -/
  | mk (condition : Condition) (negated : Bool) (commands : List Command)

end

/-- A script: its lines, and the fault behind them with its line number. -/
structure Script where
  lines : List (List Step)
  fault : Option (Nat × Fault)

/-! ## Tokens -/

/-- What a script consists of. -/
inductive Lexeme
  | word (word : Word)
  /-- A word that begins with a name and an equality sign. -/
  | setting (setting : Setting)
  /-- A mark between words. -/
  | mark (text : String)
  | redirection (stream : Stream) (mark : String)
  | fault (fault : Fault)
  | finish

/-- A part of a script and its line. -/
structure Token where
  line : Nat
  lexeme : Lexeme

/-- The marks between words, longer ones first. -/
def marks : List String := ["&&", "||", ";;", ";", "|", "&", "(", ")", "\n"]

/-- The marks of redirections, longer ones first. -/
def redirectionMarks : List String := [">>", ">&", ">|", ">", "<&", "<"]

/-- The stream of a number. -/
def Stream.ofDigit? (digit : Char) : Option Stream :=
  match digit with
  | '0' => some input
  | '1' => some output
  | '2' => some errors
  | _ => none

/-- The redirection at the beginning of a text: its stream, its mark, and what remains. -/
def redirectionAt? (text : List Char) : Option (Stream × String × List Char) :=
  let given := text.head?.bind Stream.ofDigit?
  let rest := if given.isSome then text.drop 1 else text
  (redirectionMarks.find? fun mark => mark.toList.isPrefixOf rest).map fun mark =>
    let usual := if rest.head? = some '<' then Stream.input else .output
    (given.getD usual, mark, rest.drop mark.length)

/-- The name at the beginning of a text that an equality sign follows. -/
def settingName? (text : List Char) : Option String :=
  let name := text.takeWhile isNameChar
  let begins := name.head?.any fun c => !c.isDigit
  if begins && (text.drop name.length).head? = some '=' then some (String.ofList name) else none

/-- Reads a script as tokens, the first of which is on a given line. -/
def readTokens : Nat → Nat → List Char → List Token
  | 0, line, _ => [⟨line, .finish⟩]
  | _ + 1, line, [] => [⟨line, .finish⟩]
  | fuel + 1, line, c :: rest =>
    if isBlank c then readTokens fuel line rest
    else if c = '#' then readTokens fuel line (rest.dropWhile fun d => d != '\n')
    else if c = '\\' && rest.head? = some '\n' then readTokens fuel (line + 1) (rest.drop 1)
    else
      match redirectionAt? (c :: rest) with
      | some (stream, mark, rest) =>
        ⟨line, .redirection stream mark⟩ :: readTokens fuel line rest
      | none =>
        match marks.find? fun mark => mark.toList.isPrefixOf (c :: rest) with
        | some mark =>
          let line := if c = '\n' then line + 1 else line
          ⟨line, .mark mark⟩ :: readTokens fuel line ((c :: rest).drop mark.length)
        | none =>
          let name := settingName? (c :: rest)
          let text := (c :: rest).drop ((name.map fun name => name.length + 1).getD 0)
          match readWord text with
          | .error fault => [⟨line + text.count '\n', .fault fault⟩]
          | .ok (word, rest) =>
            let breaks := text.count '\n' - rest.count '\n'
            let lexeme :=
              match name with
              | some name => Lexeme.setting ⟨name, word⟩
              | none => .word word
            ⟨line, lexeme⟩ :: readTokens fuel (line + breaks) rest

/-! ## Reading commands -/

/-- Reads a part of a script from tokens. -/
abbrev Reader := StateT (List Token) (Except (Nat × Fault))

namespace Reader

def peek : Reader Token := do return (← get).headD ⟨1, .finish⟩

/-- Passes the next token. -/
def pass : Reader Unit := do set ((← get).drop 1)

/-- The words with a meaning of their own at the beginning of a command. -/
def reservedWords : List String :=
  ["!", "case", "do", "done", "elif", "else", "esac", "fi", "for", "if", "in", "then", "until",
    "while", "\x7b", "\x7d"]

/-- The word that a token is, if it is one without quotes and variables. -/
def bareWord? (token : Token) : Option String :=
  match token.lexeme with
  | .word word => word.bareText?
  | _ => none

/-- How a token is named in a message. -/
def nameOf (token : Token) : String :=
  match token.lexeme with
  | .word _ =>
    match (bareWord? token).filter reservedWords.contains with
    | some word => "\"" ++ word ++ "\""
    | none => "word"
  | .setting _ => "word"
  | .mark "\n" => "newline"
  | .mark text => "\"" ++ text ++ "\""
  | .redirection _ _ => "redirection"
  | .fault _ => "word"
  | .finish => "end of file"

/-- Fails at the next token, where something else may be wanted. -/
def fail {α : Type} (wanted : Option String) : Reader α := do
  let token ← peek
  match token.lexeme with
  | .fault fault => throw (token.line, fault)
  | _ => throw (token.line, .unexpected (nameOf token) wanted)

def isMark (mark : String) (token : Token) : Bool :=
  match token.lexeme with
  | .mark text => text = mark
  | _ => false

/-- Takes a given mark, if it is next. -/
def acceptMark (mark : String) : Reader Bool := do
  if isMark mark (← peek) then
    pass
    return true
  else return false

/-- Takes a given mark. -/
def expectMark (mark : String) : Reader Unit := do
  unless ← acceptMark mark do fail (some ("\"" ++ mark ++ "\""))

/-- Takes a given word, if it is next. -/
def acceptWord (word : String) : Reader Bool := do
  if bareWord? (← peek) = some word then
    pass
    return true
  else return false

/-- Takes a given word. -/
def expectWord (word : String) : Reader Unit := do
  unless ← acceptWord word do fail (some ("\"" ++ word ++ "\""))

/-- Passes ends of lines. -/
def passBreaks : Reader Unit :=
  modify fun tokens => tokens.dropWhile (isMark "\n")

/-- Whether a token ends a list of steps. -/
def endsSteps (token : Token) : Bool :=
  match token.lexeme with
  | .finish => true
  | .mark text => text = ")" || text = ";;"
  | _ =>
    (bareWord? token).any
      ["do", "done", "elif", "else", "esac", "fi", "then", "\x7d"].contains

/-- The text of a setting where no variable is set. -/
def wordOf (setting : Setting) : Word :=
  { setting.value with
    pieces := .literal (setting.name.toList ++ ['=']) :: setting.value.pieces }

/-- Reads a word. If there is none, the message may say that one is wanted. -/
def word (wanted : Option String) : Reader Word := do
  match (← peek).lexeme with
  | .word word =>
    pass
    return word
  | .setting setting =>
    pass
    return wordOf setting
  | _ => fail wanted

/-- The redirection of a stream that a mark and the word behind it stand for. -/
def redirectionOf (stream : Stream) (mark : String) (file : Word) : Redirection :=
  match mark with
  | "<" => .read file
  | ">>" => .append stream file
  | ">" => .write stream file
  | ">|" => .write stream file
  | _ =>
    match (file.bareText?.bind fun text => text.toList.head?).bind Stream.ofDigit? with
    | some target => .follow stream target
    | none => .close stream

def redirections : Nat → Reader (List Redirection)
  | 0 => return []
  | fuel + 1 => do
    match (← peek).lexeme with
    | .redirection stream mark =>
      pass
      let file ← word none
      return redirectionOf stream mark file :: (← redirections fuel)
    | _ => return []

/-- The words of a command, as far as they are read. -/
structure Draft where
  /-- The variables that are set. -/
  settings : List Setting := []
  /-- The program and its arguments. -/
  words : List Word := []
  redirections : List Redirection := []

def Draft.addWord (draft : Draft) (word : Word) : Draft :=
  { draft with words := draft.words ++ [word] }

/-- Adds a setting, which is a word like others behind the program. -/
def Draft.addSetting (draft : Draft) (setting : Setting) : Draft :=
  if draft.words.isEmpty then { draft with settings := draft.settings ++ [setting] }
  else draft.addWord (wordOf setting)

/-- Reads the rest of a command that consists of words. -/
def draft : Nat → Draft → Reader Draft
  | 0, _ => fail none
  | fuel + 1, command => do
    match (← peek).lexeme with
    | .word word =>
      pass
      draft fuel (command.addWord word)
    | .setting setting =>
      pass
      draft fuel (command.addSetting setting)
    | .redirection stream mark =>
      pass
      let file ← word none
      draft fuel
        { command with redirections := command.redirections ++ [redirectionOf stream mark file] }
    | .fault _ => fail none
    | .mark "(" => fail none
    | _ => return command

/-- Reads the patterns of a case, up to the parenthesis behind them. -/
def patterns : Nat → Reader (List Word)
  | 0 => fail none
  | fuel + 1 => do
    let pattern ← word none
    if ← acceptMark "|" then return pattern :: (← patterns fuel)
    else
      expectMark ")"
      return [pattern]

/-- Reads words up to the end of a line. -/
def wordsOfLine : Nat → Reader (List Word)
  | 0 => fail none
  | fuel + 1 => do
    match (← peek).lexeme with
    | .word first =>
      pass
      return first :: (← wordsOfLine fuel)
    | .setting setting =>
      pass
      return wordOf setting :: (← wordsOfLine fuel)
    | _ =>
      unless (← acceptMark ";") || (← acceptMark "\n") do fail none
      return []

/-- The words of a repetition that names none. -/
def givenArguments : List Word := [⟨[.arguments true], false⟩]

/-- Reads the words that a repetition goes through. -/
def repeatedWords (fuel : Nat) : Reader (List Word) := do
  passBreaks
  if ← acceptWord "in" then wordsOfLine fuel
  else
    let _ ← acceptMark ";"
    return givenArguments

mutual

def command : Nat → Reader Command
  | 0 => fail none
  | fuel + 1 => do
    let token ← peek
    match ← compound fuel with
    | some form => return .compound token.line form (← redirections fuel)
    | none =>
      let draft ← draft (fuel + 1) {}
      return .words token.line draft.settings draft.words draft.redirections

/-- Reads a command that is made of scripts; nothing if there is none. -/
def compound : Nat → Reader (Option Compound)
  | 0 => fail none
  | fuel + 1 => do
    let token ← peek
    match bareWord? token with
    | some "if" =>
      pass
      let (condition, consequence, alternative) ← branches fuel
      return some (.choice condition consequence alternative)
    | some "case" =>
      pass
      let subject ← word (some "word")
      passBreaks
      expectWord "in"
      return some (.selection subject (← caseList fuel))
    | some "for" =>
      pass
      let name ← word none
      let words ← repeatedWords fuel
      passBreaks
      expectWord "do"
      let body ← script fuel
      expectWord "done"
      return some (.repetition (name.bareText?.getD "") words body)
    | some "\x7b" =>
      pass
      let body ← script fuel
      expectWord "\x7d"
      return some (.group body)
    | first =>
      if first.any reservedWords.contains then fail none
      else if ← acceptMark "(" then
        let body ← script fuel
        expectMark ")"
        return some (.separate body)
      else
        match token.lexeme with
        | .mark _ => fail none
        | .finish => fail none
        | _ => return none

/-- Reads the parts of a choice. -/
def branches : Nat → Reader (List Step × List Step × List Step)
  | 0 => fail none
  | fuel + 1 => do
    let condition ← script fuel
    expectWord "then"
    let consequence ← script fuel
    let token ← peek
    if ← acceptWord "elif" then
      let (inner, first, second) ← branches fuel
      let choice := Command.compound token.line (.choice inner first second) []
      return (condition, consequence, [.mk .always false [choice]])
    else
      let alternative ← if ← acceptWord "else" then script fuel else pure []
      expectWord "fi"
      return (condition, consequence, alternative)

/-- Reads cases up to the word behind them. -/
def caseList : Nat → Reader (List Case)
  | 0 => fail none
  | fuel + 1 => do
    passBreaks
    if ← acceptWord "esac" then return []
    else
      let _ ← acceptMark "("
      let patterns ← patterns fuel
      passBreaks
      let body ← if endsSteps (← peek) then pure [] else script fuel
      if ← acceptMark ";;" then return .mk patterns body :: (← caseList fuel)
      else
        unless ← acceptWord "esac" do fail (some "\";;\"")
        return [.mk patterns body]

/-- Reads a script that something else follows. -/
def script : Nat → Reader (List Step)
  | 0 => fail none
  | fuel + 1 => do
    passBreaks
    steps fuel true .always

/-- Reads steps: up to where they end, or up to the end of a line. -/
def steps : Nat → Bool → Condition → Reader (List Step)
  | 0, _, _ => fail none
  | fuel + 1, acrossLines, condition => do
    let negated ← acceptWord "!"
    let step := Step.mk condition negated (← commands fuel)
    if ← acceptMark "&&" then
      passBreaks
      return step :: (← steps fuel acrossLines .onSuccess)
    else if ← acceptMark "||" then
      passBreaks
      return step :: (← steps fuel acrossLines .onFailure)
    else if acrossLines then
      if (← acceptMark ";") || (← acceptMark "\n") then
        passBreaks
        if endsSteps (← peek) then return [step]
        else return step :: (← steps fuel acrossLines .always)
      else return [step]
    else if ← acceptMark ";" then
      let next ← peek
      if isMark "\n" next || endsSteps next then return [step]
      else return step :: (← steps fuel acrossLines .always)
    else return [step]

/-- Reads the commands of a pipeline. -/
def commands : Nat → Reader (List Command)
  | 0 => fail none
  | fuel + 1 => do
    let first ← command fuel
    if ← acceptMark "|" then
      passBreaks
      return first :: (← commands fuel)
    else return [first]

end

/-- Reads a line of a script. -/
def line (fuel : Nat) : Reader (List Step) := do
  let line ← steps fuel false .always
  match (← peek).lexeme with
  | .finish => return line
  | .mark "\n" => return line
  | _ => fail none

end Reader

namespace Script

/-- Reads the lines that tokens make up. -/
def ofTokens (depth : Nat) : Nat → List Token → Script
  | 0, _ => ⟨[], none⟩
  | fuel + 1, tokens =>
    let tokens := tokens.dropWhile (Reader.isMark "\n")
    match tokens with
    | [] => ⟨[], none⟩
    | ⟨_, .finish⟩ :: _ => ⟨[], none⟩
    | _ =>
      match (Reader.line depth).run tokens with
      | .error fault => ⟨[], some fault⟩
      | .ok (line, rest) =>
        let script := ofTokens depth fuel rest
        { script with lines := line :: script.lines }

/-- Reads a script whose first line has a given number. -/
def ofText (line : Nat) (text : String) : Script :=
  let tokens := readTokens (text.length + 1) line text.toList
  ofTokens (4 * tokens.length + 8) tokens.length tokens

end Script

end NodeLocale.Shell
