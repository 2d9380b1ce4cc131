import NodeLocale.Shell.Streams
import NodeLocale.Text.Utf8

/-!
# Running shell scripts

A shell runs the lines of a script one after another and carries the streams of each command to
where they are redirected. How a script inside a word runs is a parameter of everything that
depends on words, so that nothing but the depth of such scripts needs a bound.
-/

namespace NodeLocale.Shell

/-- How a shell goes on after a command. -/
inductive Flow
  | next
  | ended (status : ExitStatus)

/-! ## Commands made of words -/

/-- The signals that commands name. -/
def signals : List (String × Nat) :=
  [("HUP", 1), ("INT", 2), ("QUIT", 3), ("ILL", 4), ("TRAP", 5), ("ABRT", 6), ("BUS", 7),
    ("FPE", 8), ("KILL", 9), ("USR1", 10), ("SEGV", 11), ("USR2", 12), ("PIPE", 13),
    ("ALRM", 14), ("TERM", 15)]

/-- The number of a signal that is given by its name or by its number. -/
def signalOf? (text : String) : Option Nat :=
  match text.toNat? with
  | some number => some number
  | none => Entries.find? text signals

/-- The signal that a command sends to the shell itself. -/
def ownSignal? (arguments : List String) : Option Nat :=
  match arguments with
  | [target] => if target = processNumber then some 15 else none
  | ["-s", name, target] => if target = processNumber then signalOf? name else none
  | [option, target] =>
    if target = processNumber && option.toList.head? = some '-' then
      signalOf? (String.ofList (option.toList.drop 1))
    else none
  | _ => none

/-- Splits bytes behind the first end of a line. -/
def splitLine (bytes : List UInt8) : List UInt8 × List UInt8 :=
  let line := bytes.takeWhile fun byte => byte != 10
  (line, (bytes.drop line.length).drop 1)

/-- A text without the backslashes that quote its characters. -/
def withoutBackslashes : List Char → List Char
  | '\\' :: c :: rest => c :: withoutBackslashes rest
  | ['\\'] => []
  | c :: rest => c :: withoutBackslashes rest
  | [] => []

/-- Sets names to the words of a line; the last name gets all that remains. -/
def State.assignLine (state : State) : List String → List Char → State
  | [], _ => state
  | [name], line =>
    let text := line.dropWhile State.isGap
    state.assign name (String.ofList (text.reverse.dropWhile State.isGap).reverse)
  | name :: names, line =>
    let text := line.dropWhile State.isGap
    let word := text.takeWhile fun c => !State.isGap c
    (state.assign name (String.ofList word)).assignLine names (text.drop word.length)

/-- Reads a line of the input into variables. -/
def readLine (state : State) (streams : Streams) (arguments : List String) : State :=
  let plain := arguments.head? = some "-r"
  let names := if plain then arguments.drop 1 else arguments
  let (line, rest) := splitLine streams.input.toList
  let text := (Text.Utf8.display ⟨line.toArray⟩).toList
  let state := if streams.shared then { state with input := ⟨rest.toArray⟩ } else state
  let state := state.assignLine names (if plain then text else withoutBackslashes text)
  { state with code := if streams.input.toList.contains 10 then 0 else 1 }

/-- The outcome of a command that the shell runs; nothing if there is none. -/
def commandOutcome? (tree : FileTree) (program : String) (arguments : List String)
    (input : ByteArray) : Option Outcome :=
  match program with
  | "echo" => some (echoWords input arguments)
  | ":" => some { input }
  | "pwd" =>
    some { output := ((FileTree.pathOf tree.workingDirectory).text ++ "\n").toUTF8, input }
  | _ => toolOutcome? tree program arguments input

/-- The code and the message about a program that is not known. -/
def refusal (tree : FileTree) (program : String) : Nat × String :=
  if program.toList.contains '/' && tree.pathExists ⟨program⟩ then
    (126, program ++ ": Permission denied")
  else (127, program ++ ": not found")

def runProgram (state : State) (streams : Streams) (program : String)
    (arguments : List String) : State :=
  match commandOutcome? state.tree program arguments streams.input with
  | some outcome =>
    let state := if streams.shared then { state with input := outcome.input } else state
    let state := state.deliver streams.output outcome.output
    let state := state.deliver streams.errors outcome.errors
    let state := outcome.reports.foldl (fun state report =>
      state.complain streams.errors report) state
    { state with code := outcome.code }
  | none =>
    let (code, message) := refusal state.tree program
    { state.complain streams.errors message with code }

/-- Ends the shell with a given code or with that of the last command. -/
def runExit (state : State) (streams : Streams) : List String → State × Flow
  | [] => (state, .ended (.code state.code))
  | code :: _ =>
    match code.toNat? with
    | some code => (state, .ended (.code (code % 256)))
    | none =>
      (state.complain streams.errors ("exit: Illegal number: " ++ code), .ended (.code 2))

/-- Runs a program in place of the shell. -/
def runInstead (state : State) (streams : Streams) (program : String)
    (arguments : List String) : State × Flow :=
  match commandOutcome? state.tree program arguments streams.input with
  | some _ =>
    let state := runProgram state streams program arguments
    (state, .ended (.code state.code))
  | none =>
    let (code, message) := refusal state.tree program
    (state.complain streams.errors ("exec: " ++ message), .ended (.code code))

/-- Runs a command whose words are known. -/
def runWords (state : State) (streams : Streams) : List String → State × Flow
  | [] => ({ state with code := state.innerCode }, .next)
  | "exit" :: arguments => runExit state streams arguments
  | "exec" :: program :: arguments => runInstead state streams program arguments
  | "exec" :: [] => ({ state with code := 0 }, .next)
  | "read" :: arguments => (readLine state streams arguments, .next)
  | "kill" :: arguments =>
    match ownSignal? arguments with
    | some 0 => ({ state with code := 0 }, .next)
    | some signal => (state, .ended (.signal signal))
    | none => ({ state with code := 1 }, .next)
  | program :: arguments => (runProgram state streams program arguments, .next)

/-- The variables behind a command, which keeps those that it sets for a program to itself. -/
def restoredVariables (settings : List Setting) (before after : List (String × String)) :
    List (String × String) :=
  let own := settings.map Setting.name
  (after.filter fun entry => !own.contains entry.1) ++
    before.filter fun entry => own.contains entry.1

/-- Whether a command whose streams cannot be redirected ends the shell. -/
def endsShell (words : List String) : Bool := words.head?.any ["exit", "exec", ":"].contains

def runWordCommand (inner : InnerScript) (state : State) (settings : List Setting)
    (words : List Word) (redirections : List Redirection) : State × Flow :=
  let (state, words) := { state with innerCode := 0 }.expandAll inner words
  match redirectAll inner state { input := state.input } redirections with
  | (state, none) =>
    ({ state with code := 2 }, if endsShell words then .ended (.code 2) else .next)
  | (state, some streams) =>
    let (after, flow) := runWords (state.assignAll inner settings) streams words
    if words.isEmpty then (after, flow)
    else
      let environment := restoredVariables settings state.environment after.environment
      ({ after with environment }, flow)

/-! ## Scripts -/

/-- Runs something between redirections: its streams are those of the shell at first, and what
they hold at the end goes where they are redirected. -/
def redirected (inner : InnerScript) (state : State) (redirections : List Redirection)
    (run : State → State × Flow) : State × Flow :=
  if redirections.isEmpty then run state
  else
    match redirectAll inner state { input := state.input } redirections with
    | (state, none) => ({ state with code := 2 }, .next)
    | (state, some streams) =>
      let (after, flow) :=
        run { state with input := streams.input, output := .empty, errors := .empty }
      let merged : State :=
        { after with
          input := if streams.shared then after.input else state.input
          output := state.output
          errors := state.errors }
      ((merged.deliver streams.output after.output).deliver streams.errors after.errors, flow)

/-- What remains of a shell of its own: its variables are gone, and its end is its code. -/
def leaveSeparate (before : State) : State × Flow → State × Flow
  | (state, .next) => ({ state with environment := before.environment }, .next)
  | (state, .ended (.code code)) =>
    ({ state with environment := before.environment, code }, .next)
  | (state, .ended (.signal signal)) => (state, .ended (.signal signal))

def isSkipped (state : State) (condition : Condition) : Bool :=
  match condition with
  | .always => false
  | .onSuccess => state.code != 0
  | .onFailure => state.code == 0

/-- Turns success into failure and failure into success. -/
def State.negate (state : State) : State := { state with code := if state.code = 0 then 1 else 0 }

mutual

def runSteps (inner : InnerScript) (state : State) : List Step → State × Flow
  | [] => (state, .next)
  | step :: rest =>
    match runStep inner state step with
    | (state, .next) => runSteps inner state rest
    | ended => ended

/-- Runs a step unless it is skipped. -/
def runStep (inner : InnerScript) (state : State) : Step → State × Flow
  | .mk condition negated commands =>
    if isSkipped state condition then (state, .next)
    else
      match runPipeline inner state commands with
      | (state, .next) => (if negated then state.negate else state, .next)
      | ended => ended

def runPipeline (inner : InnerScript) (state : State) : List Command → State × Flow
  | [] => (state, .next)
  | [command] => runCommand inner state command
  | command :: rest =>
    match leaveSeparate state (runCommand inner { state with output := .empty } command) with
    | (after, .next) =>
      match runChain inner { after with input := after.output, output := .empty } rest with
      | (last, flow) =>
        ({ last with input := after.input, output := state.output ++ last.output }, flow)
    | ended => ended

/-- Runs the rest of a pipeline, each command in a shell of its own. -/
def runChain (inner : InnerScript) (state : State) : List Command → State × Flow
  | [] => (state, .next)
  | command :: rest =>
    match leaveSeparate state (runCommand inner state command) with
    | (after, .next) =>
      if rest.isEmpty then (after, .next)
      else runChain inner { after with input := after.output, output := .empty } rest
    | ended => ended

def runCommand (inner : InnerScript) (state : State) : Command → State × Flow
  | .words line settings words redirections =>
    runWordCommand inner { state with line } settings words redirections
  | .compound line form redirections =>
    redirected inner { state with line } redirections fun state => runCompound inner state form

/-- Runs a command that is made of scripts. -/
def runCompound (inner : InnerScript) (state : State) : Compound → State × Flow
  | .group steps => runSteps inner state steps
  | .separate steps => leaveSeparate state (runSteps inner state steps)
  | .choice condition consequence alternative =>
    match runSteps inner state condition with
    | (state, .next) =>
      if state.code = 0 then runSteps inner state consequence
      else runSteps inner { state with code := 0 } alternative
    | ended => ended
  | .selection subject cases =>
    let (state, text) := state.expandWhole inner subject
    runCases inner { state with code := 0 } text cases
  | .repetition name words body =>
    let (state, words) := state.expandAll inner words
    words.foldl (fun (state, flow) word =>
      match flow with
      | .next => runSteps inner (state.assign name word) body
      | .ended status => (state, .ended status)) ({ state with code := 0 }, .next)

/-- Runs the first case that a text fits. -/
def runCases (inner : InnerScript) (state : State) (text : String) : List Case → State × Flow
  | [] => (state, .next)
  | .mk patterns body :: rest =>
    let (state, patterns) := patterns.foldl (fun (state, patterns) pattern =>
      let (state, pattern) := state.expandWhole inner pattern
      (state, patterns ++ [pattern])) (state, ([] : List String))
    if patterns.any fun pattern => fitsPattern pattern.toUTF8.toList text.toUTF8.toList then
      runSteps inner state body
    else runCases inner state text rest

end

def runLines (inner : InnerScript) (state : State) : List (List Step) → State × Flow
  | [] => (state, .next)
  | line :: rest =>
    match runSteps inner state line with
    | (state, .next) => runLines inner state rest
    | ended => ended

def runScript (inner : InnerScript) (state : State) (script : Script) : State × ExitStatus :=
  match runLines inner state script.lines with
  | (state, .ended status) => (state, status)
  | (state, .next) =>
    match script.fault with
    | some (line, fault) => ({ state with line }.complain .errors fault.message, .code 2)
    | none => (state, .code state.code)

/-- The output of a script inside a word: the line breaks at its end and all null characters are
left out. -/
def wordText (output : ByteArray) : String :=
  let text := (Text.Utf8.display output).toList.filter fun c => c != '\x00'
  String.ofList (text.reverse.dropWhile fun c => c = '\n').reverse

/-- The code that a shell sees of a process that ended. -/
def codeOf : ExitStatus → Nat
  | .code code => code
  | .signal signal => 128 + signal

/-- Runs a script inside a word. -/
def runInner (run : State → String → State × ExitStatus) : InnerScript := fun state text =>
  let (after, status) := run { state with output := .empty } text
  ({ after with
      output := state.output
      environment := state.environment
      code := state.code
      innerCode := codeOf status },
    wordText after.output)

/-- Runs a text as a script, with scripts inside words up to a given depth. -/
def runText : Nat → State → String → State × ExitStatus
  | 0, state, _ => (state, .code 2)
  | depth + 1, state, text => runScript (runInner (runText depth)) state (.ofText state.line text)

/-! ## Processes -/

def shellNames : List String := ["sh", "/bin/sh", "/usr/bin/sh", "bash", "/bin/bash"]

/-- Why a program that is not known cannot be started. -/
def absence (tree : FileTree) (program : String) : FileError :=
  if program.toList.contains '/' then
    match tree.look ⟨program⟩ with
    | .ok _ => .permissionDenied
    | .error error => error
  else .notFound

/-- Runs a script as a process of its own, called by a name and with arguments. -/
def runProcess (tree : FileTree) (call : ProgramCall) (arguments : List String)
    (text : String) : FileTree × ProgramEnding :=
  let state : State := { tree, arguments, environment := call.environment, input := call.input }
  let (state, status) := runText (text.length + 1) state text
  (state.tree, ⟨status, state.output, state.errors⟩)

/-- Runs a shell. Its script is given, stands in a file, or is its input. -/
def runShell (tree : FileTree) (call : ProgramCall) : FileTree × ProgramEnding :=
  match call.arguments with
  | ["-c"] =>
    (tree, ⟨.code 2, .empty, (call.program ++ ": 0: -c requires an argument\n").toUTF8⟩)
  | "-c" :: text :: rest =>
    runProcess tree call (if rest.isEmpty then [call.program] else rest) text
  | file :: _ =>
    match tree.readBytes ⟨file⟩ with
    | .ok content => runProcess tree call call.arguments (Text.Utf8.display content)
    | .error _ =>
      let line := call.program ++ ": 0: cannot open " ++ file ++ ": No such file\n"
      (tree, ⟨.code 2, .empty, line.toUTF8⟩)
  | [] =>
    runProcess tree { call with input := .empty } [call.program] (Text.Utf8.display call.input)

/-- The programs that are known. A file of the tree is no program. -/
def programs : Programs := fun tree call =>
  if shellNames.contains call.program then
    let (tree, ending) := runShell tree call
    (tree, .ok ending)
  else
    match toolOutcome? tree call.program call.arguments call.input with
    | some outcome =>
      let reports := outcome.reports.foldl (fun text report => text ++ report ++ "\n") ""
      (tree, .ok ⟨.code outcome.code, outcome.output, outcome.errors ++ reports.toUTF8⟩)
    | none => (tree, .error (absence tree call.program))

end NodeLocale.Shell
