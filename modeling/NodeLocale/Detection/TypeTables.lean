import NodeLocale.Config
import NodeLocale.Text.Case

/-!
# Type tables

Whether a field is entered or connected depends on the type that it is declared with. A type is
that of an entered field if it is listed as such and not listed as a handle, both without regard
to case. Which labels are names of primitive types depends on case.
-/

namespace NodeLocale

/-- The types that decide how fields are classified. -/
structure TypeTables where
  /-- The types of entered fields, in capitals. -/
  widgets : List String
  handles : List String
  /-- The labels that name primitive types. -/
  primitive : List String

namespace TypeTables

def ofConfig (config : Config) : TypeTables where
  widgets := config.widgetTypes.map Text.upper
  handles := config.opaqueTypes.map Text.upper
  primitive := config.primitiveLabels

/-- Whether a type is that of an entered field. -/
def isWidget (tables : TypeTables) (tag : String) : Bool :=
  tables.widgets.contains (Text.upper tag) && !tables.handles.contains (Text.upper tag)

end TypeTables

end NodeLocale
