import NodeLocale.OrderedMap

/-!
# Programs

Of the Python source of a plugin only what can declare nodes is kept: assignments of literals,
classes, functions and the values that functions return. Expressions that are no literals are
kept as the text that stands in the source, and statements that declare nothing are kept as
placeholders.

The scope of a body is the list of its statements with compound statements opened; classes and
functions are scopes of their own and stay closed.
-/

namespace NodeLocale.Script

/-- What an expression denotes, as far as it is written out. -/
inductive Expression where
  | string (value : String)
  | name (value : String)
  | tuple (items : List Expression)
  | list (items : List Expression)
  /-- A dictionary, as its pairs in order. -/
  | dict (entries : List (Expression × Expression))
  /-- Any other expression, as it stands in the source. -/
  | other (text : String)
deriving Inhabited

namespace Expression

/-- The text that an expression denotes. -/
def string? : Expression → Option String
  | string value => some value
  | _ => none

/-- The elements of a tuple or a list. -/
def sequence? : Expression → Option (List Expression)
  | tuple items => some items
  | list items => some items
  | _ => none

/-- The pairs of a dictionary. -/
def dict? : Expression → Option (List (Expression × Expression))
  | dict entries => some entries
  | _ => none

/-- The type that an expression names: a text or a bare name. -/
def tag? : Expression → Option String
  | string value => some value
  | name value => some value
  | _ => none

mutual

/-- The text that stands for an expression where nothing better is known. -/
def label : Expression → String
  | string value => value
  | name value => value
  | other text => text
  | tuple items => "(" ++ String.intercalate ", " (labels items) ++ ")"
  | list items => "[" ++ String.intercalate ", " (labels items) ++ "]"
  | dict _ => "\x7b...\x7d"

/-- The texts that stand for some expressions. -/
def labels : List Expression → List String
  | [] => []
  | item :: rest => item.label :: labels rest

end

end Expression

/-- A statement, as far as it can declare nodes. -/
inductive Statement where
  /-- A value is bound to names; targets that are no bare names are left out. -/
  | assign (targets : List String) (value : Expression)
  | classDef (name : String) (line : Nat) (body : List Statement)
  | functionDef (name : String) (decorators : List String) (body : List Statement)
  /-- A function returns, perhaps with a value. -/
  | returns (value : Option Expression)
  /-- The bodies of a compound statement, one after another. -/
  | block (body : List Statement)
  | other
deriving Inhabited

/-- A class of a program. -/
structure ClassDef where
  name : String
  line : Nat
  body : List Statement

namespace Statement

/-- The class that a statement defines. -/
def class? : Statement → Option ClassDef
  | classDef name line body => some ⟨name, line, body⟩
  | _ => none

/-- The names and the value of an assignment. -/
def assignment? : Statement → Option (List String × Expression)
  | assign targets value => some (targets, value)
  | _ => none

/-- The value that a statement returns. -/
def returned? : Statement → Option Expression
  | returns value => value
  | _ => none

end Statement

mutual

/-- The statements that a statement contributes to the scope in which it stands. -/
def Statement.opened : Statement → List Statement
  | .block body => scope body
  | .assign targets value => [.assign targets value]
  | .classDef name line body => [.classDef name line body]
  | .functionDef name decorators body => [.functionDef name decorators body]
  | .returns value => [.returns value]
  | .other => [.other]

/-- The statements of a body with compound statements opened, to any depth. -/
def scope : List Statement → List Statement
  | [] => []
  | statement :: rest => statement.opened ++ scope rest

end

theorem scope_append (left right : List Statement) :
    scope (left ++ right) = scope left ++ scope right := by
  induction left with
  | nil => simp [scope]
  | cons statement rest ih => simp [scope, ih]

/-- The source of a plugin, as its statements in order. -/
structure Program where
  /-- The statements outside all classes and functions. -/
  body : List Statement

namespace Program

/-- The statements of the outermost scope. -/
def statements (program : Program) : List Statement := scope program.body

/-- The classes of the outermost scope. -/
def classes (program : Program) : List ClassDef :=
  program.statements.filterMap Statement.class?

/-- The assignments of the outermost scope. -/
def assignments (program : Program) : List (List String × Expression) :=
  program.statements.filterMap Statement.assignment?

end Program

end NodeLocale.Script
