import NodeLocale.Config
import NodeLocale.Reconcile.Repair
import NodeLocale.Text.Case

/-!
# Glossary

A glossary dictates the labels of some fields by their keys. Of its three rules the first that
covers a key decides: a preserved key stands for itself, a key that names a preserved type
stands for the name in capitals, and a key with a standard term for the term. Types and terms
are matched without regard to case.
-/

namespace NodeLocale

/-- The fixed labels of fields. -/
structure Glossary where
  /-- The keys that stand for themselves. -/
  preservedKeys : List String
  /-- The type names that stand for themselves, in capitals. -/
  preservedTypes : List String
  /-- The standard terms under their keys in lower case. -/
  terms : OrderedMap String String

namespace Glossary

def ofConfig (config : GlossaryConfig) : Glossary where
  preservedKeys := config.preservedKeys
  preservedTypes := config.preservedTypes.map Text.upper
  terms := .ofList (config.terms.entries.map fun entry => (Text.lower entry.1, entry.2))

/-- The label that the glossary dictates for a key, and the rule that does. -/
def lookup (glossary : Glossary) (key : String) : Option (String × GlossaryRule) :=
  if key ∈ glossary.preservedKeys then some (key, .preservedKey)
  else if Text.upper key ∈ glossary.preservedTypes then some (Text.upper key, .preservedType)
  else (glossary.terms.get? (Text.lower key)).map fun term => (term, .term)

/-- The label of a field under the glossary. -/
def labelFor (glossary : Glossary) (key label : String) : String :=
  match glossary.lookup key with
  | some (dictated, _) => dictated
  | none => label

/-- What is recorded about a field. -/
def issue? (glossary : Glossary) (field : FieldRef) (label : String) : Option Issue :=
  match glossary.lookup field.key with
  | some (dictated, reason) =>
    if label = dictated then none else some (.glossaryOverride field label dictated reason)
  | none => none

/-- What is recorded about a section of a node. -/
def sectionIssues (glossary : Glossary) (node : String) (schema : NodeSchema)
    (part : FieldSection) : List Issue :=
  (schema.fields part).entries.filterMap fun entry =>
    glossary.issue? ⟨node, part, entry.1⟩ entry.2

/-- What is recorded about a node map. -/
def issues (glossary : Glossary) (nodes : NodeMap) : List Issue :=
  nodes.entries.flatMap fun entry =>
    FieldSection.all.flatMap (glossary.sectionIssues entry.1 entry.2)

def onSchema (glossary : Glossary) (schema : NodeSchema) : NodeSchema :=
  schema.withFields fun part => (schema.fields part).mapValues glossary.labelFor

def onNodes (glossary : Glossary) (nodes : NodeMap) : NodeMap :=
  nodes.mapValues fun _ schema => glossary.onSchema schema

/-- The number of labels that the glossary changes. -/
def overrides (glossary : Glossary) (nodes : NodeMap) : Nat :=
  (nodes.values.flatMap fun schema => FieldSection.all.map fun part =>
    (schema.fields part).entries.countP fun entry =>
      glossary.labelFor entry.1 entry.2 ≠ entry.2).foldr (· + ·) 0

/-- Applies the glossary to a result and records every change behind what is recorded already. -/
def apply (glossary : Glossary) (result : Reconciled) : Reconciled where
  nodes := glossary.onNodes result.nodes
  log := result.log ++ glossary.issues result.nodes

end Glossary

end NodeLocale
