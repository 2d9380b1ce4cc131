import NodeLocale.Schema

/-!
# Issues

Whatever is decided while a translated artifact is repaired is recorded as an issue, and so is every
source file that could not be read. A correction log is a list of issues in the order in which
they arose; its text has one line for each.
-/

namespace NodeLocale

/-- How serious an issue is. -/
inductive Severity
  /-- Something could not be done. -/
  | error
  /-- Something was replaced. -/
  | warning
  /-- Something was changed as intended. -/
  | info
deriving DecidableEq

def Severity.name : Severity → String
  | error => "error"
  | warning => "warning"
  | info => "info"

/-- The kinds of issues. -/
inductive Rule
  /-- A source file is not valid. -/
  | parseFailure
  | untranslatedNode
  | missingTitle
  /-- A field was not translated. -/
  | missingKey
  /-- A label is no text. -/
  | unusableValue
  /-- A translated node lacks required members. -/
  | incompleteNode
  /-- A translated key was restored. -/
  | rekeyedEntry
  /-- A translated key has no source key. -/
  | unmappedKey
  /-- A translated key has several source keys. -/
  | ambiguousKey
  /-- A fixed term replaced a label. -/
  | glossaryOverride
deriving DecidableEq

def Rule.name : Rule → String
  | parseFailure => "parse-failure"
  | untranslatedNode => "untranslated-node"
  | missingTitle => "missing-title"
  | missingKey => "missing-key"
  | unusableValue => "unusable-value"
  | incompleteNode => "incomplete-node"
  | rekeyedEntry => "rekeyed-entry"
  | unmappedKey => "unmapped-key"
  | ambiguousKey => "ambiguous-key"
  | glossaryOverride => "glossary-override"

/-- Where a field stands: its node, section and key. -/
structure FieldRef where
  node : String
  part : FieldSection
  key : String
deriving DecidableEq

def FieldRef.text (field : FieldRef) : String :=
  field.node ++ "." ++ field.part.name ++ "." ++ field.key

/-- Why the glossary replaced a label. -/
inductive GlossaryRule
  | preservedKey
  /-- The key names a type that is kept. -/
  | preservedType
  /-- The key has a fixed label. -/
  | term
deriving DecidableEq

/-- The description of a glossary rule. -/
def GlossaryRule.text : GlossaryRule → String
  | preservedKey => "preserved key"
  | preservedType => "preserved type"
  | term => "standard term"

/-- A decision or a failure that is reported. -/
inductive Issue
  /-- A source file is not valid and was skipped. -/
  | parseFailure (file error : String)
  /-- A node is not translated; its source was kept. -/
  | untranslatedNode (node : String)
  /-- A node has no translated title; the source title was kept. -/
  | missingTitle (node : String)
  /-- A field is not translated; its key stands for its label. -/
  | missingKey (field : FieldRef)
  /-- The label of a field is neither a text nor a scalar; its key stands for it. -/
  | unusableValue (field : FieldRef) (found : String)
  /-- A node lacks required members; its source was restored. -/
  | incompleteNode (node : String) (missing : List String)
  /-- A translated key was restored to its source key. -/
  | rekeyedEntry (node : String) (part : FieldSection) (translated source : String)
      (caseInsensitive : Bool)
  /-- A translated key has no source key; the entry was kept. -/
  | unmappedKey (field : FieldRef)
  /-- A translated key has several source keys; the entry was kept. -/
  | ambiguousKey (field : FieldRef) (candidates : List String)
  /-- The glossary replaced a label. -/
  | glossaryOverride (field : FieldRef) (before after : String) (reason : GlossaryRule)
deriving DecidableEq

/-- The decisions of a reconciliation, in order. -/
abbrev CorrectionLog := List Issue

namespace Issue

/-- The kind of an issue. -/
def rule : Issue → Rule
  | parseFailure .. => .parseFailure
  | untranslatedNode .. => .untranslatedNode
  | missingTitle .. => .missingTitle
  | missingKey .. => .missingKey
  | unusableValue .. => .unusableValue
  | incompleteNode .. => .incompleteNode
  | rekeyedEntry .. => .rekeyedEntry
  | unmappedKey .. => .unmappedKey
  | ambiguousKey .. => .ambiguousKey
  | glossaryOverride .. => .glossaryOverride

/-- How serious an issue is. -/
def severity : Issue → Severity
  | parseFailure .. => .error
  | rekeyedEntry .. => .info
  | glossaryOverride .. => .info
  | _ => .warning

/-- The node that an issue is about. -/
def node? : Issue → Option String
  | parseFailure .. => none
  | untranslatedNode node => some node
  | missingTitle node => some node
  | missingKey field => some field.node
  | unusableValue field _ => some field.node
  | incompleteNode node _ => some node
  | rekeyedEntry node .. => some node
  | unmappedKey field => some field.node
  | ambiguousKey field _ => some field.node
  | glossaryOverride field .. => some field.node

/-- A text between single quotes. -/
def inQuotes (text : String) : String := "'" ++ text ++ "'"

/-- What an issue says. -/
def message : Issue → String
  | parseFailure file error => file ++ ": " ++ error
  | untranslatedNode node =>
    "node " ++ inQuotes node ++ " missing from translation, kept original"
  | missingTitle node => "node " ++ inQuotes node ++ " has no translated title, kept original"
  | missingKey field =>
    inQuotes field.text ++ " missing from translation, using key as value"
  | unusableValue field found =>
    inQuotes field.text ++ " translated to " ++ found ++ " instead of text, using key as value"
  | incompleteNode node missing =>
    "node " ++ inQuotes node ++ " lacks " ++ String.intercalate ", " missing ++
      ", restored original"
  | rekeyedEntry node part translated source caseInsensitive =>
    node ++ "." ++ part.name ++ ": " ++ inQuotes translated ++ " restored to " ++
      inQuotes source ++ (if caseInsensitive then " (case-insensitive)" else "")
  | unmappedKey field => inQuotes field.text ++ " has no original key, left unchanged"
  | ambiguousKey field candidates =>
    inQuotes field.text ++ " matches several originals (" ++
      String.intercalate ", " candidates ++ "), left unchanged"
  | glossaryOverride field before after reason =>
    inQuotes field.text ++ " " ++ before ++ " -> " ++ after ++ " (" ++ reason.text ++ ")"

def line (issue : Issue) : String :=
  "[" ++ issue.severity.name ++ "] " ++ issue.rule.name ++ ": " ++ issue.message

end Issue

def CorrectionLog.lines (log : CorrectionLog) : List String := log.map Issue.line

end NodeLocale
