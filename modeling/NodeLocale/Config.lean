import NodeLocale.Glob
import NodeLocale.Json.Printer
import NodeLocale.Json.Record
import NodeLocale.Text.Blank

/-!
# Configuration

A configuration is read from a JSON file, in which every member may be absent. It says which
files to ignore, where artifacts go, how nodes are classified, named and translated, and how the
translator is reached. A configuration that was read is valid when all its ignore patterns are
patterns, its batches are not empty, and no phrase has a blank side.
-/

namespace NodeLocale

/-- How the translator is reached and what it costs. -/
structure TranslatorConfig where
  /-- The program and its arguments. -/
  command : List String := []
  /-- The instruction that replaces the built-in one. -/
  systemPrompt : Option String := none
  /-- The price of a thousand prompt tokens. -/
  promptCostPer1k : Binary64 := .ofFloat 0.0008
  /-- The price of a thousand completion tokens. -/
  completionCostPer1k : Binary64 := .ofFloat 0.0020
deriving DecidableEq

/-- The fixed terms of a target language. -/
structure GlossaryConfig where
  enabled : Bool := false
  /-- Type names that are not translated. -/
  preservedTypes : List String :=
    ["IMAGE", "MASK", "MODEL", "CROP_DATA", "ZIP", "PDF", "CSV", "INT", "FLOAT", "BOOLEAN",
      "STRING", "BBOX_LIST"]
  /-- Field keys that are not translated. -/
  preservedKeys : List String :=
    ["width", "height", "width_old", "height_old", "job_id", "user_id", "base64_string",
      "image_quality", "image_format"]
  /-- Field keys and their fixed labels. -/
  terms : OrderedMap String String := .ofList
    [("image", "图像"), ("mask", "遮罩"), ("model", "模型"), ("processor", "处理器"),
      ("device", "设备"), ("bbox", "边界框"), ("samples", "样本"), ("operation", "操作"),
      ("guide", "引导图"), ("threshold", "阈值"), ("radius", "半径"), ("contrast", "对比度"),
      ("brightness", "亮度"), ("saturation", "饱和度"), ("hue", "色调"), ("gamma", "伽马值"),
      ("index", "索引"), ("position", "位置"), ("size", "大小"), ("scale", "缩放"),
      ("count", "计数"), ("result", "结果")]
deriving DecidableEq

/-- A configuration. -/
structure Config where
  /-- Patterns of paths that are not scanned. -/
  ignores : List String := []
  /-- The directory below which artifacts are written. -/
  outputDir : String := "./output"
  batchSize : Nat := 6
  /-- The types of fields that are entered. -/
  widgetTypes : List String :=
    ["INT", "FLOAT", "STRING", "BOOLEAN", "COMBO", "DROPDOWN", "TEXT", "TEXTAREA", "SLIDER",
      "CHECKBOX", "COLOR", "RADIO", "SELECT", "NUMBER"]
  /-- The types of handles that are only ever connected. -/
  opaqueTypes : List String :=
    ["IMAGE", "LATENT", "MODEL", "VAE", "CLIP", "CONDITIONING", "MASK", "STYLE_MODEL",
      "CONTROL_NET", "BBOX", "SEGS"]
  /-- Labels that say nothing about a field. -/
  primitiveLabels : List String := ["INT", "FLOAT", "BOOL", "STRING", "NUMBER", "BOOLEAN"]
  /-- Phrases of node names and what replaces them. -/
  phrases : OrderedMap String String := .ofList
    [("Llama Vision", "LlamaVision"), ("BiRefNet Ultra", "BiRefNetUltra"),
      ("Ben Ultra", "BenUltra"), ("Florence2 Ultra", "Florence2Ultra"),
      ("SAM2 Ultra", "SAM2Ultra"), ("SAM2 Video Ultra", "SAM2VideoUltra"),
      ("EVF-SAM Ultra", "EVFSAMUltra"),
      ("Transparent Background Ultra", "TransparentBackgroundUltra"),
      ("Human Parts Ultra", "HumanPartsUltra"),
      ("Mask Edge Ultra Detail", "MaskEdgeUltraDetail")]
  translator : TranslatorConfig := {}
  glossary : GlossaryConfig := {}
deriving DecidableEq

instance : Inhabited Config := ⟨{}⟩

/-- Reads a list of texts. -/
def Json.Reader.strings : Json.Reader (List String) := listOf string

/-- How the translator is read. -/
def TranslatorConfig.record : Json.Record TranslatorConfig where
  name := "TranslatorConfig"
  initial := {}
  fields :=
    [Json.field "command" .strings fun value config => { config with command := value },
      Json.field "systemPrompt" (.optional .string) fun value config =>
        { config with systemPrompt := value },
      Json.field "promptCostPer1k" .double fun value config =>
        { config with promptCostPer1k := value },
      Json.field "completionCostPer1k" .double fun value config =>
        { config with completionCostPer1k := value }]

/-- How the glossary is read. -/
def GlossaryConfig.record : Json.Record GlossaryConfig where
  name := "GlossaryConfig"
  initial := {}
  fields :=
    [Json.field "enabled" .boolean fun value config => { config with enabled := value },
      Json.field "preservedTypes" .strings fun value config =>
        { config with preservedTypes := value },
      Json.field "preservedKeys" .strings fun value config =>
        { config with preservedKeys := value },
      Json.field "terms" (.mapOf .string) fun value config => { config with terms := value }]

/-- A mapping between texts as an object. -/
def Json.ofTexts (map : OrderedMap String String) : Json :=
  .object (map.entries.map fun entry => (entry.1, .string entry.2))

/-- A double as a number. -/
def Json.ofDouble (value : Binary64) : Json := .number (.real value)

def TranslatorConfig.toJson (config : TranslatorConfig) : Json :=
  .object [("command", .ofStrings config.command),
    ("systemPrompt", match config.systemPrompt with
      | none => .null
      | some prompt => .string prompt),
    ("promptCostPer1k", .ofDouble config.promptCostPer1k),
    ("completionCostPer1k", .ofDouble config.completionCostPer1k)]

def GlossaryConfig.toJson (config : GlossaryConfig) : Json :=
  .object [("enabled", .bool config.enabled), ("preservedTypes", .ofStrings config.preservedTypes),
    ("preservedKeys", .ofStrings config.preservedKeys), ("terms", .ofTexts config.terms)]

/-- Why a configuration is not valid. -/
inductive ConfigFault
  | pattern (source : String) (fault : GlobFault)
  | emptyBatches
  | blankPhrase (phrase replacement : String)
deriving DecidableEq

namespace ConfigFault

/-- What is not valid. -/
def summary : ConfigFault → String
  | pattern source _ => "Invalid glob pattern in 'ignores': \"" ++ source ++ "\""
  | emptyBatches => "'batchSize' must be greater than 0"
  | blankPhrase phrase replacement =>
    "Invalid entry in 'phrases': \"" ++ phrase ++ "\" -> \"" ++ replacement ++ "\""

def message (fault : ConfigFault) : String :=
  match fault with
  | pattern _ reason => fault.summary ++ ": " ++ reason.message
  | _ => fault.summary

end ConfigFault

namespace Config

/-- How a configuration is read. -/
def record : Json.Record Config where
  name := "Config"
  initial := {}
  fields :=
    [Json.field "ignores" .strings fun value config => { config with ignores := value },
      Json.field "outputDir" .string fun value config => { config with outputDir := value },
      Json.field "batchSize" (.unsigned "usize") fun value config =>
        { config with batchSize := value },
      Json.field "widgetTypes" .strings fun value config => { config with widgetTypes := value },
      Json.field "opaqueTypes" .strings fun value config => { config with opaqueTypes := value },
      Json.field "primitiveLabels" .strings fun value config =>
        { config with primitiveLabels := value },
      Json.field "phrases" (.mapOf .string) fun value config => { config with phrases := value },
      Json.field "translator" TranslatorConfig.record.read fun value config =>
        { config with translator := value },
      Json.field "glossary" GlossaryConfig.record.read fun value config =>
        { config with glossary := value }]

def toJson (config : Config) : Json :=
  .object [("ignores", .ofStrings config.ignores), ("outputDir", .string config.outputDir),
    ("batchSize", .ofNat config.batchSize), ("widgetTypes", .ofStrings config.widgetTypes),
    ("opaqueTypes", .ofStrings config.opaqueTypes),
    ("primitiveLabels", .ofStrings config.primitiveLabels),
    ("phrases", .ofTexts config.phrases), ("translator", config.translator.toJson),
    ("glossary", config.glossary.toJson)]

def defaultText : String := (toJson {}).pretty

/-- Whether a text consists of white space. -/
def isBlankText (text : String) : Bool := text.toList.all Text.isBlank

/-- The first ignore pattern that is none. -/
def badPattern? : List String → Option (String × GlobFault)
  | [] => none
  | source :: rest =>
    match Glob.parse source with
    | .error fault => some (source, fault)
    | .ok _ => badPattern? rest

/-- The first phrase with a blank side. -/
def blankPhrase? (phrases : OrderedMap String String) : Option (String × String) :=
  phrases.entries.find? fun entry => isBlankText entry.1 || isBlankText entry.2

/-- Refuses a configuration that is not valid. -/
def validate (config : Config) : Except ConfigFault Unit :=
  match badPattern? config.ignores with
  | some (source, fault) => .error (.pattern source fault)
  | none =>
    if config.batchSize = 0 then .error .emptyBatches
    else
      match blankPhrase? config.phrases with
      | some (phrase, replacement) => .error (.blankPhrase phrase replacement)
      | none => .ok ()

/-- The patterns of paths that are not scanned. -/
def ignorePatterns (config : Config) : List Glob :=
  config.ignores.filterMap fun source => (Glob.parse source).toOption

end Config

end NodeLocale
