import NodeLocale.Json.Printer
import NodeLocale.Json.Record
import NodeLocale.Path

/-!
# Node schemas

A schema is what is translated of a node: its title and three mappings from field keys to
labels. A node map lists the schemas of a plugin in the order in which the nodes were found.
Artifacts hold node maps with the four members of a node in a fixed order; the file that defines
a node is known for reporting only and is never written.

A label that names a primitive type says nothing about its field, so such a label is replaced by
the key of the field (`NodeSchema.applyIdentity`). The replacement is idempotent unless a key is
itself such a name, and then it changes nothing either.
-/

namespace NodeLocale

/-- Field keys and their labels, in order. -/
abbrev FieldMap := OrderedMap String String

/-- One of the three field mappings of a schema. -/
inductive FieldSection
  | inputs
  | widgets
  | outputs
deriving DecidableEq

namespace FieldSection

/-- The sections in their order. -/
def all : List FieldSection := [inputs, widgets, outputs]

/-- The name of a section in artifacts and messages. -/
def name : FieldSection → String
  | inputs => "inputs"
  | widgets => "widgets"
  | outputs => "outputs"

end FieldSection

/-- What is translated of a node. -/
structure NodeSchema where
  title : String
  inputs : FieldMap := ∅
  widgets : FieldMap := ∅
  outputs : FieldMap := ∅
  /-- The file that defines the node, if known. -/
  sourceFile : Option Path := none
deriving DecidableEq, Inhabited

/-- The schemas of a plugin under their node keys, in order. -/
abbrev NodeMap := OrderedMap String NodeSchema

namespace NodeSchema

def fields (schema : NodeSchema) : FieldSection → FieldMap
  | .inputs => schema.inputs
  | .widgets => schema.widgets
  | .outputs => schema.outputs

/-- The schema whose sections are given by a function, with the title and source of another. -/
def withFields (schema : NodeSchema) (fields : FieldSection → FieldMap) : NodeSchema where
  title := schema.title
  inputs := fields .inputs
  widgets := fields .widgets
  outputs := fields .outputs
  sourceFile := schema.sourceFile

/-- The number of fields of all sections. -/
def fieldCount (schema : NodeSchema) : Nat :=
  schema.inputs.size + schema.widgets.size + schema.outputs.size

/-- The node without the file that defines it. -/
def withoutSource (schema : NodeSchema) : NodeSchema := { schema with sourceFile := none }

/-- The label of a field once names of primitive types are replaced by the key. -/
def identityLabel (primitive : List String) (key label : String) : String :=
  if label ∈ primitive then key else label

/-- Replaces labels that name primitive types by the keys of their fields. -/
def applyIdentity (primitive : List String) (schema : NodeSchema) : NodeSchema :=
  schema.withFields fun part => (schema.fields part).mapValues (identityLabel primitive)

/-- The number of labels that `applyIdentity` changes in a section. -/
def identityChangesIn (primitive : List String) (fields : FieldMap) : Nat :=
  fields.entries.countP fun entry => entry.2 ∈ primitive && entry.2 ≠ entry.1

/-- The number of labels that `applyIdentity` changes. -/
def identityChanges (primitive : List String) (schema : NodeSchema) : Nat :=
  (FieldSection.all.map fun part =>
    identityChangesIn primitive (schema.fields part)).foldr (· + ·) 0

/-- A field mapping as an object. -/
def fieldsToJson (fields : FieldMap) : Json :=
  .object (fields.entries.map fun entry => (entry.1, .string entry.2))

def toJson (schema : NodeSchema) : Json :=
  .object [("title", .string schema.title), ("inputs", fieldsToJson schema.inputs),
    ("widgets", fieldsToJson schema.widgets), ("outputs", fieldsToJson schema.outputs)]

/-- How a schema is read: it must have a title, and sections that are absent are empty. -/
def record : Json.Record NodeSchema where
  name := "NodeSchema"
  initial := { title := "" }
  fields :=
    [Json.requiredField "title" Json.Reader.string fun title schema =>
        { schema with title := title },
      Json.field "inputs" (Json.Reader.mapOf Json.Reader.string) fun fields schema =>
        { schema with inputs := fields },
      Json.field "widgets" (Json.Reader.mapOf Json.Reader.string) fun fields schema =>
        { schema with widgets := fields },
      Json.field "outputs" (Json.Reader.mapOf Json.Reader.string) fun fields schema =>
        { schema with outputs := fields }]

end NodeSchema

namespace NodeMap

/-- A node map as an object with a member for every node. -/
def toJsonObject (nodes : NodeMap) : JsonObject := nodes.mapValues fun _ schema => schema.toJson

def toJson (nodes : NodeMap) : Json := .ofMap nodes.toJsonObject

def reader : Json.Reader NodeMap := Json.Reader.mapOf NodeSchema.record.read

/-- Replaces labels that name primitive types by the keys of their fields, in every node. -/
def applyIdentity (primitive : List String) (nodes : NodeMap) : NodeMap :=
  nodes.mapValues fun _ schema => schema.applyIdentity primitive

/-- The number of labels that `applyIdentity` changes. -/
def identityChanges (primitive : List String) (nodes : NodeMap) : Nat :=
  (nodes.values.map fun schema => schema.identityChanges primitive).foldr (· + ·) 0

/-- Forgets the files that define the nodes, as what a translator is sent does not name them. -/
def withoutSources (nodes : NodeMap) : NodeMap :=
  nodes.mapValues fun _ schema => schema.withoutSource

end NodeMap

end NodeLocale
