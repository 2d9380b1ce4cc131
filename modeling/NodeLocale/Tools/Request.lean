import NodeLocale.Json.Decoder
import NodeLocale.Reconcile.Artifacts

/-!
# Requests to tools

An agent asks for work by the name of a tool and its parameters, which are a JSON value.
Parameters that no request fits are refused with the reason.
-/

namespace NodeLocale

open Json (Absence Decoder Layout Member)

/-- What detecting the nodes of a plugin takes. -/
structure ExtractRequest where
  plugin : Path := default
  /-- The directory whose configuration applies; the plugin's own, if none is given. -/
  root : Option Path := none

/-- What normalizing names takes. -/
structure NormalizeRequest where
  names : List String := []
  /-- The directory whose configuration applies. -/
  root : Option Path := none

/-- What comparing two artifacts takes. -/
structure DiffRequest where
  older : Path := default
  newer : Path := default
  /-- The directory whose configuration applies. -/
  root : Option Path := none

/-- What reconciling two artifacts takes. -/
structure ReconcileRequest where
  /-- The artifact that was translated. -/
  source : Path := default
  translated : Path := default
  mode : ReconcileMode := .batch
  /-- Whether the glossary is applied; what the configuration says, if none is given. -/
  glossary : Option Bool := none
  /-- The directory whose configuration applies. -/
  root : Option Path := none

/-- What asking for the configuration takes. -/
structure ConfigRequest where
  /-- The directory whose configuration applies. -/
  root : Path := default

/-- A request to a tool. -/
inductive ToolRequest
  /-- Detect the nodes of a plugin. -/
  | extractNodes (request : ExtractRequest)
  | normalizeNames (request : NormalizeRequest)
  /-- List the nodes that a newer artifact adds. -/
  | diffNodes (request : DiffRequest)
  /-- Reconcile a translated artifact with the one it was made from. -/
  | reconcileNodes (request : ReconcileRequest)
  | getConfig (request : ConfigRequest)

def Path.decoder : Decoder Path := fun json => (Decoder.text json).map Path.mk

/-- The member that names the directory whose configuration applies. -/
def rootMember {σ : Type} (store : Option Path → σ → σ) : Member σ :=
  .of "projectRootPath" .allowedInObject (.optional Path.decoder) store

/-- How the parameters for detecting nodes are laid out. -/
def ExtractRequest.layout : Layout ExtractRequest where
  name := "ExtractNodesParams"
  initial := {}
  members :=
    [.of "pluginPath" .refused Path.decoder fun value request => { request with plugin := value },
      rootMember fun value request => { request with root := value }]

/-- How the parameters for normalizing names are laid out. -/
def NormalizeRequest.layout : Layout NormalizeRequest where
  name := "NormalizeNamesParams"
  initial := {}
  members :=
    [.of "names" .refused (.listOf .text) fun value request => { request with names := value },
      rootMember fun value request => { request with root := value }]

/-- How the parameters for comparing artifacts are laid out. -/
def DiffRequest.layout : Layout DiffRequest where
  name := "DiffNodesParams"
  initial := {}
  members :=
    [.of "oldPath" .refused Path.decoder fun value request => { request with older := value },
      .of "newPath" .refused Path.decoder fun value request => { request with newer := value },
      rootMember fun value request => { request with root := value }]

def ReconcileMode.decoder : Decoder ReconcileMode :=
  .oneOf (ReconcileMode.all.map fun mode => (mode.name, mode))

/-- How the parameters for reconciling are laid out. -/
def ReconcileRequest.layout : Layout ReconcileRequest where
  name := "ReconcileTranslationParams"
  initial := {}
  members :=
    [.of "originalPath" .refused Path.decoder fun value request =>
        { request with source := value },
      .of "translatedPath" .refused Path.decoder fun value request =>
        { request with translated := value },
      .of "mode" .allowed ReconcileMode.decoder fun value request =>
        { request with mode := value },
      .of "applyGlossary" .allowedInObject (.optional .truth) fun value request =>
        { request with glossary := value },
      rootMember fun value request => { request with root := value }]

/-- How the parameters for asking for the configuration are laid out. -/
def ConfigRequest.layout : Layout ConfigRequest where
  name := "GetConfigParams"
  initial := {}
  members :=
    [.of "projectRootPath" .refused Path.decoder fun value request =>
      { request with root := value }]

/-- A tool: its name and how its parameters become a request. -/
structure Tool where
  name : String
  decode : Decoder ToolRequest

namespace Tool

/-- A tool whose parameters are a record. -/
def ofLayout {σ : Type} (name : String) (layout : Layout σ) (make : σ → ToolRequest) : Tool :=
  ⟨name, fun json => (layout.decode json).map make⟩

def all : List Tool :=
  [.ofLayout "extract_nodes" ExtractRequest.layout .extractNodes,
    .ofLayout "normalize_names" NormalizeRequest.layout .normalizeNames,
    .ofLayout "diff_nodes" DiffRequest.layout .diffNodes,
    .ofLayout "reconcile_translation" ReconcileRequest.layout .reconcileNodes,
    .ofLayout "get_config" ConfigRequest.layout .getConfig]

def ofName? (name : String) : Option Tool := all.find? fun tool => tool.name = name

/-- What agents are told about the tools. -/
def instructions : String := String.intercalate "\n"
  ["Nodelingo MCP helps AI agents prepare ComfyUI plugin nodes for translation.",
    "",
    "Available tools:",
    "1. get_config - Get project configuration",
    "2. extract_nodes - Extract node schemas from a plugin directory",
    "3. normalize_names - Normalize raw node keys",
    "4. diff_nodes - List nodes added between two extraction artifacts",
    "5. reconcile_translation - Repair a translated artifact against its original",
    "",
    "Recommended Workflow:",
    "1. Use extract_nodes to get the schemas to translate",
    "2. Translate titles and field labels, never the keys",
    "3. Run reconcile_translation (batch mode) on every translated chunk",
    "4. Run reconcile_translation (final mode) on the merged result",
    "5. If keys were translated by mistake, use strict mode to restore them"]

end Tool

end NodeLocale
