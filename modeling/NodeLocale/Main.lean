import NodeLocale.CommandLine.Execution
import NodeLocale.FileTree.Changes
import NodeLocale.Shell.Execution

/-!
# The program

The program runs one command line on the files that its input lists: a line with one JSON
object, whose members are paths and texts. It prints the output of the command and then one line
with the files that changed, removed ones being null; messages go to the other stream.

A translator is a program, and programs of the machine cannot be started from here: they would see
none of the files of the input, nor would their changes show. So a shell and a few of its tools are
built in, and translators are scripts for this shell. The rest of the library takes the programs as
a parameter, and nothing that is proved depends on which of them there are.
-/

namespace NodeLocale.CommandLine

/-- The files in a line of input; none if it is no object of texts. -/
def filesOf (line : String) : FileTree :=
  match Json.Reader.readText (Json.Reader.mapOf Json.Reader.string) line with
  | .ok files => .ofTexts files.entries
  | .error _ => .empty

/-- The member that tells a change. -/
def changeMember (change : FileChange) : String × Json :=
  (change.path,
    match change.node with
    | some (.file content) => .string (Text.Utf8.display content)
    | some .directory => .string ""
    | none => .null)

/-- The line that tells all changes between two trees. -/
def changesLine (before after : FileTree) : String :=
  (Json.object ((before.changes [] after).map changeMember)).compact ++ "\n"

/-- What the program prints and the code with which it ends. -/
structure Printout where
  output : String
  messages : String
  code : Nat

/-- What the program prints for its arguments and a line of input. -/
def printout (arguments : List String) (line : String) : Printout :=
  match parseCommand arguments with
  | .error error => ⟨"", "error: " ++ error.name ++ "\n", error.code⟩
  | .ok command =>
    let tree := filesOf line
    let session := Session.ofCommandLine Shell.programs false tree command
    let failure := (session.error.map fun error => "Error: " ++ error ++ "\n").getD ""
    ⟨session.output ++ changesLine tree session.tree, session.messages ++ failure, session.code⟩

end NodeLocale.CommandLine

/-- Runs the command line on the files that the input lists. -/
def main (arguments : List String) : IO UInt32 := do
  let input ← IO.getStdin
  let result := NodeLocale.CommandLine.printout arguments (← input.getLine)
  IO.print result.output
  IO.eprint result.messages
  return UInt32.ofNat result.code
