import NodeLocale.Detection.TypeTables
import NodeLocale.Schema
import NodeLocale.Script.Program

/-!
# Node classes

A class is a node if it declares its inputs by a method or its outputs by a tuple or list. The
inputs are the entries of the dictionaries that the method returns, each of which is either
connected or entered according to its declared type. The outputs get keys by their positions,
and a later list of names renames them one by one; outputs for which there is no name are gone.
-/

namespace NodeLocale

open Script (ClassDef Expression Statement scope)

namespace NodeClass

/-- The name of the method that declares inputs. -/
def inputsMethod : String := "INPUT_TYPES"

/-- The name that the types of the outputs are bound to. -/
def outputTypesName : String := "RETURN_TYPES"

/-- The name that the names of the outputs are bound to. -/
def outputNamesName : String := "RETURN_NAMES"

def functionBody? (name : String) : Statement → Option (List Statement)
  | .functionDef called _ body => if called = name then some body else none
  | _ => none

/-- The body of the first method with a given name. -/
def methodBody? (name : String) (definition : ClassDef) : Option (List Statement) :=
  definition.body.findSome? (functionBody? name)

def hasMethod (name : String) (definition : ClassDef) : Bool :=
  (methodBody? name definition).isSome

/-- Whether a statement binds a tuple or a list to a given name. -/
def bindsSequence (name : String) (statement : Statement) : Bool :=
  match statement.assignment? with
  | some (targets, value) => targets.contains name && value.sequence?.isSome
  | none => false

/-- Whether a class binds a tuple or a list to a given name. -/
def hasSequence (name : String) (definition : ClassDef) : Bool :=
  definition.body.any (bindsSequence name)

def isNode (definition : ClassDef) : Bool :=
  hasMethod inputsMethod definition || hasSequence outputTypesName definition

/-- The type that a declaration names in its first element. -/
def declaredTag? (declaration : Expression) : Option String :=
  declaration.sequence?.bind fun items => items.head?.bind Expression.tag?

/-- Whether a declaration is that of an entered field. -/
def declaresWidget (tables : TypeTables) (declaration : Expression) : Bool :=
  (declaredTag? declaration).any tables.isWidget

/-- The fields that a section declares, with their declarations. -/
def sectionDeclarations (part : Expression) : List (String × Expression) :=
  (part.dict?.getD []).filterMap fun entry => entry.1.string?.map fun name => (name, entry.2)

/-- The fields that a returned value declares in all its sections. -/
def declarationsIn (returned : Expression) : List (String × Expression) :=
  (returned.dict?.getD []).flatMap fun entry => sectionDeclarations entry.2

/-- The fields that the inputs method declares, in the order of the source. -/
def declarations (definition : ClassDef) : List (String × Expression) :=
  match methodBody? inputsMethod definition with
  | some body => ((scope body).filterMap Statement.returned?).flatMap declarationsIn
  | none => []

/-- The fields whose declarations satisfy a test, each standing for itself. -/
def fieldsWhere (test : Expression → Bool) (definition : ClassDef) : FieldMap :=
  .ofList (((declarations definition).filter fun entry => test entry.2).map
    fun entry => (entry.1, entry.1))

/-- The connected fields. -/
def inputs (tables : TypeTables) : ClassDef → FieldMap :=
  fieldsWhere fun declaration => !declaresWidget tables declaration

/-- The entered fields. -/
def widgets (tables : TypeTables) : ClassDef → FieldMap :=
  fieldsWhere (declaresWidget tables)

/-- The key of an output without a name. -/
def outputKey (index : Nat) : String := "output_" ++ toString index

/-- The outputs that a list of types declares. -/
def outputsOfTypes (types : List Expression) : FieldMap :=
  .ofList (types.mapIdx fun index type => (outputKey index, type.label))

/-- The key of an output under its name; what is no text names nothing. -/
def renamedKey (name : Expression) (key : String) : String := name.string?.getD key

/-- Renames outputs one by one. No names at all leave the outputs alone. -/
def renameOutputs (outputs : FieldMap) (names : List Expression) : FieldMap :=
  if names.isEmpty then outputs
  else .ofList (names.zipWith (fun name output => (renamedKey name output.1, output.2))
    outputs.entries)

/-- The outputs after an assignment in the class. -/
def outputsAfter (outputs : FieldMap) (assignment : List String × Expression) : FieldMap :=
  match assignment.2.sequence? with
  | none => outputs
  | some items =>
    if assignment.1.contains outputTypesName then outputsOfTypes items
    else if assignment.1.contains outputNamesName then renameOutputs outputs items
    else outputs

def outputs (definition : ClassDef) : FieldMap :=
  (definition.body.filterMap Statement.assignment?).foldl outputsAfter ∅

/-- The schema of a class under a title. -/
def schema (tables : TypeTables) (title : String) (source : Option Path)
    (definition : ClassDef) : NodeSchema :=
  NodeSchema.applyIdentity tables.primitive {
    title
    inputs := inputs tables definition
    widgets := widgets tables definition
    outputs := outputs definition
    sourceFile := source }

end NodeClass

end NodeLocale
