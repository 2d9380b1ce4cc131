import NodeLocale.Text.Utf8
import NodeLocale.Localization.Program
import NodeLocale.Localization.Run

/-!
# Services

Replies come from a program that is called once for each batch, or from a directory in which
replies were recorded.
-/

namespace NodeLocale

namespace LocalizationService

/-- What is reported where the output of a program is no text. -/
def badOutputMessage (output : ByteArray) : String :=
  "Translator output is not valid UTF-8" ++
    ((Text.Utf8.fault? output).map fun fault => ": " ++ fault.message).getD ""

/-- The reply in what a program left behind. -/
def replyOf (program : String) (ending : ProgramEnding) : Except String ServiceReply :=
  if ending.status.succeeded then
    match String.fromUTF8? ending.output with
    | some output => .ok (.ofOutput output)
    | none => .error (badOutputMessage ending.output)
  else
    .error (program ++ " exited with " ++ ending.status.text ++ ": " ++
      Text.trim (Text.Utf8.display ending.errors))

def ofProgram (programs : Programs) (program : String) (arguments : List String) :
    LocalizationService := fun tree request =>
  match programs tree (.ofRequest program arguments request) with
  | (tree, .error error) =>
    (tree, .error ("Failed to start translator: " ++ program ++ ": " ++ error.message))
  | (tree, .ok ending) => (tree, replyOf program ending)

/-- What is reported where no program is given. -/
def noProgramMessage : String :=
  "No translator configured: set 'translator.command' in the config file"

/-- The service of a command: a program and its arguments. -/
def ofCommand (programs : Programs) : List String → Except String LocalizationService
  | [] => .error noProgramMessage
  | program :: arguments => .ok (ofProgram programs program arguments)

/-- The files that may hold the reply for a batch, in the order of preference. -/
def recordedFiles (directory : Path) (batch : Nat) : List Path :=
  ["json", "txt"].map fun ending =>
    directory.child ("batch_" ++ toString batch ++ "." ++ ending)

def recordedReply (tree : FileTree) (directory : Path) (batch : Nat) :
    Except String ServiceReply :=
  match (recordedFiles directory batch).find? tree.isFile with
  | none =>
    .error ("No recorded reply for batch " ++ toString batch ++ " in " ++ directory.text)
  | some file =>
    match tree.readText file with
    | .ok content => .ok (.ofOutput content)
    | .error error => .error ("Failed to read file: " ++ file.text ++ ": " ++ error.message)

/-- The service that gives the replies recorded in a directory. -/
def ofRecordings (directory : Path) : LocalizationService := fun tree request =>
  (tree, recordedReply tree directory request.batch)

end LocalizationService

end NodeLocale
