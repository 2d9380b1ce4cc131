import NodeLocale.Script.Program
import NodeLocale.Text.Letter

/-!
# Registration

A plugin registers its classes in dictionaries that are assigned to names of fixed meaning: one
gives the class of each node key, the other the title. Where a class or a key occurs more than
once the last entry counts. An assignment to both names registers classes only.
-/

namespace NodeLocale

open Script (Expression Program)

/-- What a plugin registers. -/
structure Registration where
  /-- The node keys under the names of their classes. -/
  keyForClass : OrderedMap String String
  /-- The titles under the node keys. -/
  titles : OrderedMap String String

namespace Registration

/-- The name of the dictionary of classes. -/
def classesName : String := "NODE_CLASS_MAPPINGS"

/-- The name of the dictionary of titles. -/
def titlesName : String := "NODE_DISPLAY_NAME_MAPPINGS"

/-- The text behind the last dot. -/
def afterLastDot (text : String) : List Char :=
  (text.toList.reverse.takeWhile fun c => c != '.').reverse

/-- Whether a text could be the name of a class. -/
def isClassName (text : List Char) : Bool :=
  !text.isEmpty && text.all (fun c => Text.isAlphanumeric c || c = '_') &&
    !(text.head?.any fun c => '0' ≤ c && c ≤ '9')

/-- The class that an expression refers to, by its name alone or behind the names of modules. -/
def className? : Expression → Option String
  | .name name => some name
  | .other text =>
    let last := afterLastDot text
    if isClassName last then some (String.ofList last) else none
  | _ => none

/-- The class and the key of an entry of a dictionary of classes. -/
def registeredClass? (entry : Expression × Expression) : Option (String × String) :=
  match entry.1.string?, className? entry.2 with
  | some key, some name => some (name, key)
  | _, _ => none

/-- The key and the title of an entry of a dictionary of titles. -/
def registeredTitle? (entry : Expression × Expression) : Option (String × String) :=
  match entry.1.string?, entry.2.string? with
  | some key, some title => some (key, title)
  | _, _ => none

/-- The classes that an assignment registers. -/
def classEntries (assignment : List String × Expression) : List (String × String) :=
  if assignment.1.contains classesName then
    (assignment.2.dict?.getD []).filterMap registeredClass?
  else []

def titleEntries (assignment : List String × Expression) : List (String × String) :=
  if assignment.1.contains titlesName && !assignment.1.contains classesName then
    (assignment.2.dict?.getD []).filterMap registeredTitle?
  else []

def ofProgram (program : Program) : Registration where
  keyForClass := .ofList (program.assignments.flatMap classEntries)
  titles := .ofList (program.assignments.flatMap titleEntries)

/-- The node key of a class: its name, unless it is registered under another one. -/
def keyOf (registration : Registration) (className : String) : String :=
  (registration.keyForClass.get? className).getD className

/-- The title of a node: its key, unless it has one of its own. -/
def titleOf (registration : Registration) (key : String) : String :=
  (registration.titles.get? key).getD key

end Registration

end NodeLocale
