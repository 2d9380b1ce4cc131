import NodeLocale.Detection.NodeClass
import NodeLocale.Detection.Registration

/-!
# Detected nodes

The nodes of a program are its node classes, under the keys for which the program registers
them. Of several classes with one key the last gives the schema and the first the position.
Only the outermost scope of the program counts, and neither the order of registrations and
classes nor what stands between them has an influence.
-/

namespace NodeLocale

open Script (ClassDef Program)

namespace Detected

/-- The key and the schema of a class. -/
def entryOf (tables : TypeTables) (registration : Registration) (source : Option Path)
    (definition : ClassDef) : String × NodeSchema :=
  let key := registration.keyOf definition.name
  (key, NodeClass.schema tables (registration.titleOf key) source definition)

def nodeClasses (program : Program) : List ClassDef := program.classes.filter NodeClass.isNode

/-- The nodes of a program that is read from a file. -/
def nodes (tables : TypeTables) (source : Option Path) (program : Program) : NodeMap :=
  .ofList ((nodeClasses program).map (entryOf tables (.ofProgram program) source))

end Detected

end NodeLocale
