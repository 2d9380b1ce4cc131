import NodeLocale.FileTree
import NodeLocale.Shell.Format

/-!
# Commands of a shell

The few commands that lines for translators are made of. A command takes its arguments and its
input to a code, to its output and to what it reports about errors, and leaves a part of the
input to whoever reads next.
-/

namespace NodeLocale.Shell

/-- What a command leaves behind. -/
structure Outcome where
  code : Nat := 0
  output : ByteArray := .empty
  /-- What it wrote about errors. -/
  errors : ByteArray := .empty
  input : ByteArray := .empty
  /-- What the shell reports about it, line by line. -/
  reports : List String := []

def printFormat (input : ByteArray) : List String → Outcome
  | [] => { code := 2, reports := ["printf: usage: printf format [arg ...]"], input }
  | format :: arguments =>
    let parts := readFormat (format.length + 1) format.toList
    let written := writeFormat parts (arguments.length + 1) arguments {}
    { code := written.code, output := written.bytes, input
      reports := written.reports.map fun report => "printf: " ++ report }

/-- The words behind an option that suppresses the line break, and the line break if there is
none. -/
def withoutBreakOption : List String → List String × String
  | "-n" :: words => (words, "")
  | words => (words, "\n")

/-- The outcome of printing words, in which escapes are replaced. -/
def echoWords (input : ByteArray) (words : List String) : Outcome :=
  let (words, ending) := withoutBreakOption words
  let (bytes, stops) := escaped (String.intercalate " " words)
  { output := if stops then bytes else bytes ++ ending.toUTF8, input }

/-- The outcome of printing words as they are. -/
def echoPlain (input : ByteArray) (words : List String) : Outcome :=
  let (words, ending) := withoutBreakOption words
  { output := (String.intercalate " " words ++ ending).toUTF8, input }

/-- The text of a file error as commands report it. -/
def briefMessage (error : FileError) : String :=
  match error with
  | .notFound => "No such file or directory"
  | .notDirectory => "Not a directory"
  | .isDirectory => "Is a directory"
  | .nameTooLong => "File name too long"
  | .permissionDenied => "Permission denied"
  | other => other.message

/-- Adds the content of a file to an outcome. -/
def addFile (program : String) (tree : FileTree) (outcome : Outcome) (file : String) : Outcome :=
  if file = "-" then
    { outcome with output := outcome.output ++ outcome.input, input := .empty }
  else
    match tree.readBytes ⟨file⟩ with
    | .ok content => { outcome with output := outcome.output ++ content }
    | .error error =>
      let line := program ++ ": " ++ file ++ ": " ++ briefMessage error ++ "\n"
      { outcome with code := 1, errors := outcome.errors ++ line.toUTF8 }

/-- The outcome of writing files one after another; without any, the input is written. -/
def concatenate (program : String) (tree : FileTree) (input : ByteArray) (files : List String) :
    Outcome :=
  (if files.isEmpty then ["-"] else files).foldl (addFile program tree) { input }

/-- The first lines of a list of bytes. -/
def firstLines : Nat → List UInt8 → List UInt8
  | 0, _ => []
  | _ + 1, [] => []
  | count + 1, byte :: rest =>
    if byte = 10 then byte :: firstLines count rest else byte :: firstLines (count + 1) rest

/-- What is read of a file or, without one, of the input, and what remains of the input; nothing
for any other words. -/
def readSource? (tree : FileTree) (input : ByteArray) :
    List String → Option (ByteArray × ByteArray)
  | [] => some (input, .empty)
  | [file] => (tree.readBytes ⟨file⟩).toOption.map fun content => (content, input)
  | _ => none

/-- The outcome of writing the beginning of a file or of the input. -/
def writeHead (tree : FileTree) (input : ByteArray) : List String → Option Outcome
  | "-c" :: count :: files => do
    let count ← count.toNat?
    let (source, rest) ← readSource? tree input files
    let rest := if files.isEmpty then source.extract count source.size else rest
    return { output := source.extract 0 count, input := rest }
  | "-n" :: count :: files => do lines (← count.toNat?) files
  | files => lines 10 files
where
  /-- The outcome of writing so many lines. -/
  lines (count : Nat) (files : List String) : Option Outcome := do
    let (source, input) ← readSource? tree input files
    return { output := ⟨(firstLines count source.toList).toArray⟩, input }

/-- The outcome of counting the bytes or the lines of a file or of the input. -/
def countInput (tree : FileTree) (input : ByteArray) : List String → Option Outcome
  | "-c" :: files => told files ByteArray.size
  | "-l" :: files => told files fun source => source.toList.count 10
  | _ => none
where
  told (files : List String) (count : ByteArray → Nat) : Option Outcome := do
    let (source, input) ← readSource? tree input files
    let words := toString (count source) :: files
    return { output := (String.intercalate " " words ++ "\n").toUTF8, input }

/-- Whether a relation between numbers holds; nothing if there is no such relation. -/
def relationHolds? (relation : String) (left right : Int) : Option Bool :=
  match relation with
  | "-eq" => some (decide (left = right))
  | "-ne" => some (decide (left ≠ right))
  | "-lt" => some (decide (left < right))
  | "-le" => some (decide (left ≤ right))
  | "-gt" => some (decide (left > right))
  | "-ge" => some (decide (left ≥ right))
  | _ => none

/-- A number in a condition. -/
def conditionNumber (text : String) : Except String Int :=
  match text.toInt? with
  | some value => .ok value
  | none => .error ("Illegal number: " ++ text)

/-- Whether a condition on one file or text holds; nothing if there is no such condition. -/
def singleHolds? (tree : FileTree) (condition operand : String) : Option Bool :=
  match condition with
  | "!" => some operand.isEmpty
  | "-n" => some !operand.isEmpty
  | "-z" => some operand.isEmpty
  | "-e" => some (tree.pathExists ⟨operand⟩)
  | "-r" => some (tree.pathExists ⟨operand⟩)
  | "-w" => some (tree.pathExists ⟨operand⟩)
  | "-f" => some (tree.isFile ⟨operand⟩)
  | "-d" => some (tree.isDirectory ⟨operand⟩)
  | "-s" => some ((tree.readBytes ⟨operand⟩).toOption.any fun content => content.size != 0)
  | "-t" => some false
  | _ => none

/-- Whether a condition on files, texts and numbers holds, or what is wrong with it. -/
def conditionHolds (tree : FileTree) : List String → Except String Bool
  | [] => .ok false
  | [text] => .ok !text.isEmpty
  | [condition, operand] =>
    match singleHolds? tree condition operand with
    | some holds => .ok holds
    | none => .error (condition ++ ": unexpected operator")
  | [left, "=", right] => .ok (left == right)
  | [left, "!=", right] => .ok (left != right)
  | "!" :: rest => (conditionHolds tree rest).map fun holds => !holds
  | [left, relation, right] =>
    if (relationHolds? relation 0 0).isNone then .error (left ++ ": unexpected operator")
    else do
      let left ← conditionNumber left
      let right ← conditionNumber right
      return (relationHolds? relation left right).getD false
  | first :: _ => .error (first ++ ": unexpected operator")

/-- The outcome of testing a condition. -/
def testCondition (program : String) (tree : FileTree) (input : ByteArray)
    (words : List String) : Outcome :=
  match conditionHolds tree words with
  | .ok true => { input }
  | .ok false => { code := 1, input }
  | .error fault => { code := 2, input, reports := [program ++ ": " ++ fault] }

/-- The directories of programs. -/
def programDirectories : List String := ["/bin/", "/usr/bin/"]

/-- The name of a program without the directory of programs, if one is given. -/
def bareName (program : String) : String :=
  match programDirectories.find? fun directory => directory.toList.isPrefixOf program.toList with
  | some directory => String.ofList (program.toList.drop directory.length)
  | none => program

/-- The outcome of a program; nothing if it is not known. -/
def toolOutcome? (tree : FileTree) (program : String) (arguments : List String)
    (input : ByteArray) : Option Outcome :=
  match bareName program with
  | "cat" => some (concatenate program tree input arguments)
  | "echo" => some (echoPlain input arguments)
  | "printf" => some (printFormat input arguments)
  | "head" => writeHead tree input arguments
  | "wc" => countInput tree input arguments
  | "test" => some (testCondition program tree input arguments)
  | "[" =>
    if arguments.getLast? = some "]" then
      some (testCondition program tree input arguments.dropLast)
    else some { code := 2, input, reports := ["[: missing ]"] }
  | "true" => some { input }
  | "sleep" => some { input }
  | "false" => some { code := 1, input }
  | _ => none

end NodeLocale.Shell
