import NodeLocale.FileTree
import NodeLocale.Localization.Request

/-!
# Programs that translate

A translator is a program that reads a request from its input and writes a reply to its output.
What programs there are and what they do is a parameter: programs take a file tree and a call
to a changed tree and an ending, or cannot be started.
-/

namespace NodeLocale

/-- How a program is called. -/
structure ProgramCall where
  program : String
  arguments : List String
  /-- The variables that are set for it. -/
  environment : List (String × String)
  input : ByteArray

/-- How a program ended. -/
inductive ExitStatus
  | code (value : Nat)
  | signal (number : Nat)
deriving DecidableEq

/-- What a program left behind. -/
structure ProgramEnding where
  status : ExitStatus
  output : ByteArray
  /-- What it wrote about errors. -/
  errors : ByteArray

/-- The programs that can be called. -/
abbrev Programs := FileTree → ProgramCall → FileTree × Except FileError ProgramEnding

namespace ExitStatus

def signalName (number : Nat) : String :=
  match number with
  | 1 => " (SIGHUP)"
  | 2 => " (SIGINT)"
  | 3 => " (SIGQUIT)"
  | 4 => " (SIGILL)"
  | 5 => " (SIGTRAP)"
  | 6 => " (SIGABRT)"
  | 7 => " (SIGBUS)"
  | 8 => " (SIGFPE)"
  | 9 => " (SIGKILL)"
  | 10 => " (SIGUSR1)"
  | 11 => " (SIGSEGV)"
  | 12 => " (SIGUSR2)"
  | 13 => " (SIGPIPE)"
  | 14 => " (SIGALRM)"
  | 15 => " (SIGTERM)"
  | _ => ""

def text : ExitStatus → String
  | code value => "exit status: " ++ toString value
  | signal number => "signal: " ++ toString number ++ signalName number

def succeeded : ExitStatus → Bool
  | code value => value = 0
  | signal _ => false

end ExitStatus

namespace ProgramCall

/-- What a translator reads: the two parts of a request as one object. -/
def payload (request : LocalizationRequest) : ByteArray :=
  (Json.object [("system", .string request.system), ("user", .string request.user)]).compact.toUTF8

/-- The variable that holds the position of the batch. -/
def batchVariable : String := "NODELINGO_BATCH"

/-- The call that sends a request to a translator. -/
def ofRequest (program : String) (arguments : List String) (request : LocalizationRequest) :
    ProgramCall where
  program
  arguments
  environment := [(batchVariable, toString request.batch)]
  input := payload request

end ProgramCall

end NodeLocale
