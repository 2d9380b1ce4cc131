import NodeLocale.Shell.State
import NodeLocale.Shell.Tools

/-!
# Streams of shell commands

Where the streams of a command go. Files are opened when a redirection is carried out, so that a
file is emptied or found missing before the command runs.
-/

namespace NodeLocale.Shell

/-- Where the output of a command goes. -/
inductive Target
  | output
  /-- To what the shell writes about errors. -/
  | errors
  | file (path : String)
  | nowhere

/-- Where the streams of a command go. -/
structure Streams where
  input : ByteArray
  /-- Whether that is what remains of the input of the shell. -/
  shared : Bool := true
  output : Target := .output
  /-- Where what it writes about errors goes. -/
  errors : Target := .errors

/-- The file that swallows everything. -/
def sink : String := "/dev/null"

/-- Sets where a stream of a command goes. -/
def Streams.direct (streams : Streams) (stream : Stream) (target : Target) : Streams :=
  match stream with
  | .errors => { streams with errors := target }
  | .output => { streams with output := target }
  | .input => streams

/-- Writes bytes to where a stream goes. -/
def State.deliver (state : State) (target : Target) (bytes : ByteArray) : State :=
  match target with
  | .output => { state with output := state.output ++ bytes }
  | .errors => { state with errors := state.errors ++ bytes }
  | .nowhere => state
  | .file path =>
    let before := (state.tree.readBytes ⟨path⟩).toOption.getD .empty
    match state.tree.writeBytes ⟨path⟩ (before ++ bytes) with
    | .ok tree => { state with tree }
    | .error _ => state

/-- Writes a message of the shell about the line that runs. -/
def State.complain (state : State) (target : Target) (message : String) : State :=
  state.deliver target
    (state.name ++ ": " ++ toString state.line ++ ": " ++ message ++ "\n").toUTF8

/-- Why a file cannot be created, as the shell reports it. -/
def creationMessage (error : FileError) : String :=
  match error with
  | .notFound => "Directory nonexistent"
  | other => briefMessage other

/-- Opens a file for a stream. -/
def openFile (state : State) (streams : Streams) (stream : Stream) (file : String)
    (appends : Bool) : State × Option Streams :=
  if file = sink then (state, some (streams.direct stream .nowhere))
  else
    let before := (state.tree.readBytes ⟨file⟩).toOption.getD .empty
    let content := if appends then before else .empty
    match state.tree.writeBytes ⟨file⟩ content with
    | .ok tree => ({ state with tree }, some (streams.direct stream (.file file)))
    | .error error =>
      let message := "cannot create " ++ file ++ ": " ++ creationMessage error
      (state.complain streams.errors message, none)

/-- Carries out a redirection. -/
def redirect (inner : InnerScript) (state : State) (streams : Streams) :
    Redirection → State × Option Streams
  | .read word =>
    let (state, file) := state.expandWhole inner word
    if file = sink then (state, some { streams with input := .empty, shared := false })
    else
      match state.tree.readBytes ⟨file⟩ with
      | .ok content => (state, some { streams with input := content, shared := false })
      | .error _ =>
        (state.complain streams.errors ("cannot open " ++ file ++ ": No such file"), none)
  | .write stream word =>
    let (state, file) := state.expandWhole inner word
    openFile state streams stream file false
  | .append stream word =>
    let (state, file) := state.expandWhole inner word
    openFile state streams stream file true
  | .follow stream target =>
    (state, some (streams.direct stream
      (match target with
        | .errors => streams.errors
        | _ => streams.output)))
  | .close stream =>
    (state, some (match stream with
      | .input => { streams with input := .empty, shared := false }
      | _ => streams.direct stream .nowhere))

/-- Carries out redirections, up to the first that fails. -/
def redirectAll (inner : InnerScript) (state : State) (streams : Streams) :
    List Redirection → State × Option Streams
  | [] => (state, some streams)
  | redirection :: rest =>
    match redirect inner state streams redirection with
    | (state, some streams) => redirectAll inner state streams rest
    | (state, none) => (state, none)

end NodeLocale.Shell
