/-!
# Command line syntax

A command line is read from left to right. What is known about a command is a list of options
and the number of positional arguments. A value that stands on its own is checked only when the
next argument that is understood is taken, or at the end; so an argument that is not understood
is reported before a bad value in front of it.
-/

namespace NodeLocale.CommandLine

/-- Why the arguments are no command. Asking for help or for the version is one reason. -/
inductive UsageError
  | displayHelp
  | displayVersion
  | missingRequiredArgument
  /-- There is no such command. -/
  | invalidSubcommand
  /-- A value is missing, empty or not among those allowed. -/
  | invalidValue
  | valueValidation
  /-- There is no such argument. -/
  | unknownArgument
  /-- An option occurs twice. -/
  | argumentConflict
  /-- An option takes no value. -/
  | tooManyValues
deriving DecidableEq

def UsageError.name : UsageError → String
  | displayHelp => "DisplayHelp"
  | displayVersion => "DisplayVersion"
  | missingRequiredArgument => "MissingRequiredArgument"
  | invalidSubcommand => "InvalidSubcommand"
  | invalidValue => "InvalidValue"
  | valueValidation => "ValueValidation"
  | unknownArgument => "UnknownArgument"
  | argumentConflict => "ArgumentConflict"
  | tooManyValues => "TooManyValues"

/-- The code with which a program ends on a usage error. -/
def UsageError.code : UsageError → Nat
  | displayHelp => 0
  | displayVersion => 0
  | _ => 2

/-- What an option does. -/
inductive OptionRole
  | flag
  /-- It takes a value that passes a check. -/
  | valued (check : String → Except UsageError Unit)
  | help
  | version

/-- An option of a command. -/
structure OptionSpec where
  /-- The name behind two dashes. -/
  name : String
  /-- The letter behind one dash. -/
  letter : Option Char := none
  role : OptionRole

/-- How many positional arguments a command takes. -/
inductive Positionals
  /-- So many. -/
  | exactly (count : Nat)
  | many

/-- What a command takes. -/
structure CommandSpec where
  options : List OptionSpec
  /-- The positional arguments, which are paths. -/
  positionals : Positionals

/-- What has been read of the arguments of a command. -/
structure Given where
  flags : List String := []
  /-- The options with their values. -/
  values : List (String × String) := []
  positionals : List String := []

/-- What was read last and is not yet checked. -/
inductive Pending
  | nothing
  | value (option : OptionSpec) (text : Option String)
  | positionals (texts : List String)

def helpOption : OptionSpec := ⟨"help", some 'h', .help⟩

def versionOption : OptionSpec := ⟨"version", some 'V', .version⟩

/-- Accepts every path but the empty one. -/
def checkPath (text : String) : Except UsageError Unit :=
  if text.isEmpty then .error .invalidValue else .ok ()

/-- The digits of a whole number, without a plus sign in front. -/
def wholeDigits (text : String) : List Char :=
  match text.toList with
  | '+' :: digits => digits
  | digits => digits

/-- The machine word that a text writes. -/
def word? (text : String) : Option Nat :=
  let digits := wholeDigits text
  if digits.isEmpty || !digits.all Char.isDigit then none
  else
    let value := digits.foldl (fun value c => 10 * value + (c.toNat - '0'.toNat)) 0
    if value < UInt64.size then some value else none

/-- Accepts machine words. -/
def checkWord (text : String) : Except UsageError Unit :=
  if (word? text).isSome then .ok () else .error .valueValidation

/-- Accepts the words of a list. -/
def checkOneOf (allowed : List String) (text : String) : Except UsageError Unit :=
  if allowed.contains text then .ok () else .error .invalidValue

namespace Given

/-- Whether an option was given. -/
def has (given : Given) (name : String) : Bool :=
  given.flags.contains name || given.values.any fun entry => entry.1 = name

def value? (given : Given) (name : String) : Option String :=
  (given.values.find? fun entry => entry.1 = name).map Prod.snd

def setValue (given : Given) (option : OptionSpec) (text : String) : Except UsageError Given :=
  if given.has option.name then .error .argumentConflict
  else
    match option.role with
    | .valued check => do
      check text
      return { given with values := given.values ++ [(option.name, text)] }
    | _ => .error .tooManyValues

def setFlag (given : Given) (name : String) : Except UsageError Given :=
  if given.has name then .error .argumentConflict
  else .ok { given with flags := given.flags ++ [name] }

/-- Records positional arguments. -/
def addPositionals (given : Given) : List String → Except UsageError Given
  | [] => .ok given
  | text :: rest => do
    checkPath text
    { given with positionals := given.positionals ++ [text] }.addPositionals rest

/-- Checks and records what was read last. -/
def settle (given : Given) : Pending → Except UsageError Given
  | .nothing => .ok given
  | .value _ none => .error .invalidValue
  | .value option (some text) => given.setValue option text
  | .positionals texts => given.addPositionals texts

end Given

/-- Reads an option without a value next to it. -/
def takeOption (option : OptionSpec) (given : Given) (pending : Pending) :
    Except UsageError (Given × Pending) := do
  let given ← given.settle pending
  match option.role with
  | .help => throw .displayHelp
  | .version => throw .displayVersion
  | .flag => return (← given.setFlag option.name, .nothing)
  | .valued _ => return (given, .value option none)

/-- Reads an option with a value attached to it. -/
def takeAttached (option : OptionSpec) (text : String) (given : Given) (pending : Pending) :
    Except UsageError (Given × Pending) :=
  match option.role with
  | .valued _ => do
    let given ← given.settle pending
    return (← given.setValue option text, .nothing)
  | _ => .error .tooManyValues

/-- Reads an option with two dashes, which are gone. -/
def takeLong (spec : CommandSpec) (text : List Char) (given : Given) (pending : Pending) :
    Except UsageError (Given × Pending) :=
  let name := String.ofList (text.takeWhile fun c => c != '=')
  match spec.options.find? fun option => option.name = name with
  | none => .error .unknownArgument
  | some option =>
    match text.dropWhile fun c => c != '=' with
    | [] => takeOption option given pending
    | _ :: value => takeAttached option (String.ofList value) given pending

/-- Reads options with one dash, which is gone. What follows the letter of an option that takes
a value is its value. -/
def takeLetters (spec : CommandSpec) : List Char → Given → Pending →
    Except UsageError (Given × Pending)
  | [], given, pending => .ok (given, pending)
  | letter :: rest, given, pending =>
    match spec.options.find? fun option => option.letter = some letter with
    | none => .error .unknownArgument
    | some option =>
      match option.role, rest with
      | .valued _, [] => takeOption option given pending
      | .valued _, '=' :: value => takeAttached option (String.ofList value) given pending
      | .valued _, value => takeAttached option (String.ofList value) given pending
      | _, _ => do
        let (given, pending) ← takeOption option given pending
        takeLetters spec rest given pending

/-- The number of positional arguments so far. -/
def positionalCount (given : Given) : Pending → Nat
  | .positionals texts => given.positionals.length + texts.length
  | _ => given.positionals.length

/-- Reads a positional argument. -/
def takePositional (spec : CommandSpec) (text : String) (given : Given) (pending : Pending) :
    Except UsageError (Given × Pending) :=
  match spec.positionals with
  | .many =>
    match pending with
    | .positionals texts => .ok (given, .positionals (texts ++ [text]))
    | _ => do return (← given.settle pending, .positionals [text])
  | .exactly count =>
    if positionalCount given pending < count then do
      return (← given.settle pending, .positionals [text])
    else .error .unknownArgument

/-- Reads arguments. Behind two dashes alone all are positional. -/
def takeAll (spec : CommandSpec) : Bool → List String → Given → Pending →
    Except UsageError Given
  | _, [], given, pending => given.settle pending
  | true, text :: rest, given, pending => do
    let (given, pending) ← takePositional spec text given pending
    takeAll spec true rest given pending
  | false, text :: rest, given, pending =>
    match text.toList with
    | ['-', '-'] => takeAll spec true rest given pending
    | '-' :: '-' :: long => do
      let (given, pending) ← takeLong spec long given pending
      takeAll spec false rest given pending
    | '-' :: letter :: letters => do
      let (given, pending) ← takeLetters spec (letter :: letters) given pending
      takeAll spec false rest given pending
    | _ =>
      match pending with
      | .value option none => takeAll spec false rest given (.value option (some text))
      | _ => do
        let (given, pending) ← takePositional spec text given pending
        takeAll spec false rest given pending

/-- The number of positional arguments that a command needs. -/
def Positionals.needed : Positionals → Nat
  | exactly count => count
  | many => 1

def readArguments (spec : CommandSpec) (arguments : List String) : Except UsageError Given := do
  let given ← takeAll spec false arguments {} .nothing
  if given.positionals.length < spec.positionals.needed then throw .missingRequiredArgument
  return given

end NodeLocale.CommandLine
