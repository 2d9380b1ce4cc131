import NodeLocale.CommandLine.Usage
import NodeLocale.Reconcile.Artifacts

/-!
# Commands

The commands of the program and what they take. Without a command the program prints what
commands there are.
-/

namespace NodeLocale.CommandLine

/-- What all commands on artifacts take. -/
structure CommonOptions where
  /-- The output directory that replaces the configured one. -/
  outputDir : Option String := none
  /-- Whether all details are printed. -/
  verbose : Bool := false

/-- What a localization takes. -/
structure TranslateOptions where
  /-- The number of nodes in a batch that replaces the configured one. -/
  batchSize : Option Nat := none
  /-- The directory of recorded replies that are used instead of a translator. -/
  replay : Option Path := none
  /-- Whether saved batches are resumed. -/
  resume : Bool := false
  /-- Whether the pending nodes and the batches stay behind. -/
  keepTemp : Bool := false
  /-- Whether the glossary is applied in any case. -/
  glossary : Bool := false

/-- What a reconciliation takes. -/
structure ReconcileOptions where
  mode : ReconcileMode := .batch
  /-- The file for the result. -/
  output : Option Path := none
  /-- Whether the glossary is applied in any case. -/
  glossary : Bool := false

/-- A command. -/
inductive Command
  | extract (plugins : List Path) (common : CommonOptions)
  | translate (plugins : List Path) (options : TranslateOptions) (common : CommonOptions)
  /-- Reconcile a translated artifact with the artifact that was translated. -/
  | reconcile (source translated : Path) (options : ReconcileOptions) (common : CommonOptions)
  /-- List the nodes that a newer artifact adds. -/
  | diff (older newer : Path) (output : Option Path) (common : CommonOptions)
  /-- Write a configuration file. -/
  | init
  /-- Serve tools to other programs. -/
  | serve

/-- The options that all commands on artifacts have. -/
def commonSpecs : List OptionSpec :=
  [⟨"output-dir", none, .valued checkPath⟩, ⟨"verbose", some 'v', .flag⟩, helpOption]

/-- What detecting nodes takes. -/
def extractSpec : CommandSpec := ⟨commonSpecs, .many⟩

/-- What translating nodes takes. -/
def translateSpec : CommandSpec :=
  ⟨⟨"batch-size", none, .valued checkWord⟩ :: ⟨"replay", none, .valued checkPath⟩ ::
    ⟨"resume", none, .flag⟩ :: ⟨"keep-temp", none, .flag⟩ :: ⟨"glossary", none, .flag⟩ ::
    commonSpecs, .many⟩

/-- What reconciling takes. -/
def reconcileSpec : CommandSpec :=
  ⟨⟨"mode", none, .valued (checkOneOf (ReconcileMode.all.map ReconcileMode.name))⟩ ::
    ⟨"output", some 'o', .valued checkPath⟩ :: ⟨"glossary", none, .flag⟩ :: commonSpecs,
    .exactly 2⟩

/-- What listing added nodes takes. -/
def diffSpec : CommandSpec :=
  ⟨⟨"output", some 'o', .valued checkPath⟩ :: commonSpecs, .exactly 2⟩

/-- What a command without arguments takes. -/
def plainSpec : CommandSpec := ⟨[helpOption], .exactly 0⟩

/-- The options in front of a command. -/
def outerSpec : CommandSpec := ⟨[helpOption, versionOption], .exactly 0⟩

/-- What all commands on artifacts were given. -/
def Given.common (given : Given) : CommonOptions :=
  ⟨given.value? "output-dir", given.has "verbose"⟩

/-- The paths among the positional arguments. -/
def Given.paths (given : Given) : List Path := given.positionals.map Path.mk

def extractOf (given : Given) : Command := .extract given.paths given.common

def translateOf (given : Given) : Command :=
  .translate given.paths
    { batchSize := (given.value? "batch-size").bind word?
      replay := (given.value? "replay").map Path.mk
      resume := given.has "resume"
      keepTemp := given.has "keep-temp"
      glossary := given.has "glossary" }
    given.common

def reconcileOf (given : Given) : Command :=
  .reconcile ((given.paths[0]?).getD default) ((given.paths[1]?).getD default)
    { mode := ((given.value? "mode").bind ReconcileMode.ofName?).getD .batch
      output := (given.value? "output").map Path.mk
      glossary := given.has "glossary" }
    given.common

/-- The command that lists added nodes. -/
def diffOf (given : Given) : Command :=
  .diff ((given.paths[0]?).getD default) ((given.paths[1]?).getD default)
    ((given.value? "output").map Path.mk) given.common

/-- A command with its name, what it takes and how it is made of what it was given. -/
structure CommandEntry where
  name : String
  spec : CommandSpec
  make : Given → Command

def commandEntries : List CommandEntry :=
  [⟨"extract", extractSpec, extractOf⟩, ⟨"translate", translateSpec, translateOf⟩,
    ⟨"reconcile", reconcileSpec, reconcileOf⟩, ⟨"diff", diffSpec, diffOf⟩,
    ⟨"init", plainSpec, fun _ => .init⟩, ⟨"serve", plainSpec, fun _ => .serve⟩]

/-- The name of the command that explains commands. -/
def helpName : String := "help"

def commandNamed? (name : String) : Option CommandEntry :=
  commandEntries.find? fun entry => entry.name = name

/-- What asking for help on a command amounts to. -/
def helpOn : List String → UsageError
  | [] => .displayHelp
  | name :: rest =>
    if name = helpName then helpOn rest
    else if (commandNamed? name).isSome then
      if rest.isEmpty then .displayHelp else .invalidSubcommand
    else .invalidSubcommand

/-- Whether a text is the name of a command, the one that explains commands included. -/
def isCommandName (name : String) : Bool := name = helpName || (commandNamed? name).isSome

/-- Reads a command line; none stands for no command. Behind two dashes alone there is no place
for a command. -/
def parseCommand : List String → Except UsageError (Option Command)
  | [] => .ok none
  | name :: rest =>
    if name = helpName then .error (helpOn rest)
    else
      match commandNamed? name with
      | some entry => do
        let given ← readArguments entry.spec rest
        return some (entry.make given)
      | none =>
        match name.toList with
        | ['-', '-'] =>
          match rest with
          | [] => .ok none
          | first :: _ =>
            .error (if isCommandName first then .unknownArgument else .invalidSubcommand)
        | '-' :: '-' :: long => do
          let _ ← takeLong outerSpec long {} .nothing
          throw .unknownArgument
        | '-' :: letter :: letters => do
          let _ ← takeLetters outerSpec (letter :: letters) {} .nothing
          throw .unknownArgument
        | _ => .error .invalidSubcommand

/-- What is printed where no command is given. -/
def helpText : String :=
  String.join
    ["Extract translatable node schemas from ComfyUI-style plugin sources and reconcile ",
      "machine translations\n\n",
      "Usage: nodelingo [COMMAND]\n\n",
      "Commands:\n",
      "  extract    Extract translatable node schemas from plugin source directories\n",
      "  translate  Translate extracted node schemas and reconcile every batch\n",
      "  reconcile  Reconcile a translated artifact against its original\n",
      "  diff       List nodes present in NEW but not in OLD\n",
      "  init       Initialize a new .nodelingorc.json configuration file\n",
      "  serve      Start MCP server for AI coding agents\n",
      "  help       Print this message or the help of the given subcommand(s)\n\n",
      "Options:\n",
      "  -h, --help     Print help\n",
      "  -V, --version  Print version\n"]

end NodeLocale.CommandLine
