import NodeLocale.Script.ExpressionReader
import NodeLocale.Text.Blank

/-!
# Reading statements

A line of simple statements gives one statement each, and a compound statement gives one
statement with its bodies joined. As with expressions, the readers for compound statements take
the readers for bodies as arguments, and `statements` ties the knot one block at a time.
-/

namespace NodeLocale.Script.Reader

section Simple

variable (readers : ExpressionReaders)

/-- Reads a name with dots, as modules have them. -/
def dottedName : Reader Unit := do
  let _ ← name
  let _ ← many do
    if ← acceptMark "." then
      let _ ← name
      return some ()
    else return none

/-- Reads a new name for what is imported, if there is one. -/
def importAlias : Reader Unit := do
  if ← acceptWord "as" then
    let _ ← name

/-- Reads the rest of an import of modules. -/
def importModules : Reader Unit := do
  let _ ← separated (fun _ => true) do
    dottedName
    importAlias

/-- Reads the rest of an import of names from a module. -/
def importNames : Reader Unit := do
  let dots ← many do
    if ← accept fun token => isMark "." token || isMark "..." token then return some ()
    else return none
  if dots.isEmpty || isName (← peek) then dottedName
  let _ ← word "import"
  let item : Reader Unit := do
    let _ ← name
    importAlias
  if ← acceptMark "*" then pure ()
  else if ← acceptMark "(" then
    let _ ← separated (fun token => !isMark ")" token) item
    let _ ← mark ")"
  else
    let _ ← separated isName item

/-- Reads expressions, if one begins. -/
def optionalExpressions : Reader (Option Piece) := do
  if beginsExpression (← peek) then return some (← expressions readers.expression)
  else return none

/-- The operators that change a value in place. -/
def augmentedMarks : List String :=
  ["+=", "-=", "*=", "/=", "//=", "%=", "@=", "&=", "|=", "^=", ">>=", "<<=", "**="]

/-- Reads the values of a chain of assignments, given what stands left of the first. -/
def assignmentChain (first : Piece) : Reader Statement := do
  let checked (target : Piece) : Reader Unit :=
    if target.assignable then pure () else fail
  checked first
  let values ← many do
    if isMark "=" (← peek) then
      let _ ← take
      let value ← rightSide readers.expression
      if isMark "=" (← peek) then checked value
      return some value
    else return none
  match values.getLast? with
  | none => return .other
  | some value =>
    let targets := first :: values.dropLast
    return .assign (targets.filterMap Piece.boundName?) value.value

/-- Reads an assignment, or an expression that stands alone. -/
def assignment : Reader Statement := do
  let first ← rightSide readers.expression
  let token ← peek
  if isMark "=" token then assignmentChain readers first
  else if isMark ":" token && first.assignable then
    let _ ← take
    let _ ← readers.expression
    if isMark "=" (← peek) then assignmentChain readers first else return .other
  else if token.kind = .mark && augmentedMarks.contains token.text && first.assignable then
    let _ ← take
    let _ ← rightSide readers.expression
    return .other
  else return .other

/-- Reads the statement that prints values. -/
def printStatement : Reader Statement := do
  let _ ← word "print"
  let _ ← separated beginsExpression readers.expression
  return .other

/-- Reads the statement that runs text, which is written out or has a name. -/
def execStatement : Reader Statement := do
  let _ ← word "exec"
  let _ ← expect fun token => isName token || token.kind = .string false
  if ← acceptWord "in" then
    let _ ← separated (fun _ => true) readers.expression
  return .other

/-- Reads the parameters of a generic type, if there are any. -/
def typeParameters : Reader Unit := do
  if ← acceptMark "[" then
    let _ ← separated (fun token => !isMark "]" token) do
      if ← acceptMark "*" then pure ()
      else
        let _ ← acceptMark "**"
      let _ ← name
      if ← acceptMark ":" then
        let _ ← readers.expression
      if ← acceptMark "=" then
        let _ ← readers.expression
    let _ ← mark "]"

/-- Reads a definition of a type. -/
def typeStatement : Reader Statement := do
  let _ ← word "type"
  let _ ← name
  typeParameters readers
  let _ ← mark "="
  let _ ← readers.expression
  return .other

/-- Reads an assignment behind which a simple statement ends. -/
def wholeAssignment : Reader Statement := do
  let statement ← assignment readers
  let next ← peek
  if next.kind = .lineEnd || isMark ";" next then return statement else fail

/-- Reads a statement that is no keyword's. Some words are keywords only where nothing else can
be meant. -/
def plainStatement : Reader Statement := do
  let token ← peek
  let other? : Option (Reader Statement) :=
    if isWord "print" token then some (printStatement readers)
    else if isWord "exec" token then some (execStatement readers)
    else if isWord "type" token then some (typeStatement readers)
    else none
  match other? with
  | some other => orElse (wholeAssignment readers) other
  | none => assignment readers

def simpleStatement : Reader Statement := do
  if ← accept fun token => isWord "pass" token || isWord "break" token || isWord "continue" token
  then return .other
  else if ← acceptWord "return" then
    return .returns ((← optionalExpressions readers).map Piece.value)
  else if ← acceptWord "raise" then
    if (← optionalExpressions readers).isSome then
      if ← acceptWord "from" then
        let _ ← readers.expression
    return .other
  else if ← accept fun token => isWord "global" token || isWord "nonlocal" token then
    let _ ← separated (fun _ => true) name
    return .other
  else if ← acceptWord "del" then
    readers.targets
    return .other
  else if ← acceptWord "assert" then
    let _ ← separated (fun _ => true) readers.expression
    return .other
  else if ← acceptWord "import" then
    importModules
    return .other
  else if ← acceptWord "from" then
    importNames
    return .other
  else plainStatement readers

def simpleLine : Reader (List Statement) := do
  let first ← simpleStatement readers
  let more ← many do
    if ← acceptMark ";" then
      if (← peek).kind = .lineEnd then return some none
      else return some (some (← simpleStatement readers))
    else return none
  let _ ← ofKind .lineEnd
  return first :: more.filterMap id

end Simple

section Patterns

variable (pattern : Reader Unit)

/-- Reads patterns separated by commas, some of which may take all that is left. -/
def patterns (closer : Token → Bool) : Reader Unit := do
  let _ ← separated (fun token => !closer token) do
    if ← acceptMark "*" then
      let _ ← name
    else pattern

/-- Reads a number in a pattern, which may be a sum. -/
def numberPattern : Reader Unit := do
  let _ ← acceptMark "-"
  let _ ← ofKind .number
  if ← accept fun token => isMark "+" token || isMark "-" token then
    let _ ← ofKind .number

/-- Reads a name in a pattern, with the patterns for the parts of an object of that class. -/
def namePattern : Reader Unit := do
  dottedName
  if ← acceptMark "(" then
    let _ ← listUpTo ")" do
      if isName (← peek) && isMark "=" (← peekSecond) then
        let _ ← take
        let _ ← take
      pattern

/-- Reads a pattern for mappings. -/
def mappingPattern : Reader Unit := do
  let _ ← mark "\x7b"
  let _ ← listUpTo "\x7d" do
    if ← acceptMark "**" then
      let _ ← name
    else
      pattern
      let _ ← mark ":"
      pattern

/-- Reads a pattern that is no choice. -/
def closedPattern : Reader Unit := do
  let token ← peek
  match token.kind with
  | .number => numberPattern
  | .string _ =>
    let _ ← strings
  | .name =>
    if isName token then namePattern pattern
    else if ["False", "None", "True"].contains token.text then
      let _ ← take
    else fail
  | .mark =>
    if token.text = "-" then numberPattern
    else if token.text = "\x7b" then mappingPattern pattern
    else
      let closer ←
        if ← acceptMark "(" then pure ")"
        else if ← acceptMark "[" then pure "]"
        else fail
      if isMark closer (← peek) then pure () else patterns pattern (isMark closer)
      let _ ← mark closer
  | _ => fail

/-- Reads a pattern, given the reader for the patterns nested in it. -/
def patternOf : Reader Unit := do
  closedPattern pattern
  let _ ← many do
    if ← acceptMark "|" then
      closedPattern pattern
      return some ()
    else return none
  if ← acceptWord "as" then
    let _ ← name

/-- Reads a pattern to a given depth of nesting. -/
def patternWithin : Nat → Reader Unit
  | 0 => fail
  | depth + 1 => fun source tokens => patternOf (patternWithin depth) source tokens

end Patterns

section Compound

variable (readers : ExpressionReaders) (body : Reader (List Statement))

/-- Reads the loop or condition behind a keyword and the body that belongs to it. -/
def headed (head : Reader Unit) : Reader (List Statement) := do
  head
  body

def condition : Reader Unit := do
  let _ ← named readers.expression

/-- Reads the bodies behind a word that may occur many times. -/
def branches (keyword : String) (head : Reader Unit) : Reader (List Statement) := do
  let bodies ← many do
    if ← acceptWord keyword then return some (← headed body head) else return none
  return bodies.flatten

/-- Reads the body behind a word, if that is next. -/
def optionalBranch (keyword : String) : Reader (List Statement) := do
  if ← acceptWord keyword then body else return []

/-- Reads the rest of a conditional statement. -/
def ifStatement : Reader Statement := do
  let first ← headed body (condition readers)
  let others ← branches body "elif" (condition readers)
  let last ← optionalBranch body "else"
  return .block (first ++ others ++ last)

/-- Reads the rest of a loop with a condition. -/
def whileStatement : Reader Statement := do
  let first ← headed body (condition readers)
  let last ← optionalBranch body "else"
  return .block (first ++ last)

/-- Reads the rest of a loop over values. -/
def forStatement : Reader Statement := do
  readers.targets
  let _ ← word "in"
  let _ ← expressions readers.expression
  let first ← body
  let last ← optionalBranch body "else"
  return .block (first ++ last)

/-- Reads what a handler of failures handles. -/
def handled : Reader Unit := do
  let _ ← acceptMark "*"
  if beginsExpression (← peek) then
    let _ ← separated (fun _ => true) readers.expression
    importAlias

/-- Reads the rest of a statement that handles failures. -/
def tryStatement : Reader Statement := do
  let first ← body
  let handlers ← many do
    if ← acceptWord "except" then return some (← headed body (handled readers)) else return none
  let otherwise ← optionalBranch body "else"
  if handlers.isEmpty && !isWord "finally" (← peek) then fail
  let last ← optionalBranch body "finally"
  return .block (first ++ handlers.flatten ++ otherwise ++ last)

/-- Reads a resource and what it is bound to. -/
def resource : Reader Unit := do
  let _ ← readers.expression
  if ← acceptWord "as" then
    let bound ← readers.primary
    if bound.assignable then pure () else fail

/-- Reads the rest of a statement that holds resources. -/
def withStatement : Reader Statement := do
  let enclosed : Reader (List Statement) := do
    let _ ← mark "("
    let _ ← separated (fun token => !isMark ")" token) (resource readers)
    let _ ← mark ")"
    body
  let plain : Reader (List Statement) := do
    let _ ← separated (fun _ => true) (resource readers)
    body
  return .block (← if isMark "(" (← peek) then orElse enclosed plain else plain)

/-- Reads a case of a selection. -/
def caseBranch : Reader Statement := do
  let _ ← word "case"
  patterns (patternWithin ((← get).length + 1)) fun token =>
    isMark ":" token || isWord "if" token
  if ← acceptWord "if" then condition readers
  return .block (← body)

/-- Reads a selection by patterns. -/
def matchStatement : Reader Statement := do
  let _ ← word "match"
  let _ ← expressions readers.expression
  let _ ← mark ":"
  let _ ← ofKind .lineEnd
  let _ ← ofKind .blockStart
  let first ← caseBranch readers body
  let more ← many do
    if isWord "case" (← peek) then return some (← caseBranch readers body) else return none
  let _ ← ofKind .blockEnd
  return .block (first :: more)

/-- Reads a parameter of a function. -/
def parameter : Reader Unit := do
  let annotation : Reader Unit := do
    if ← acceptMark ":" then
      let _ ← spread readers.expression readers.expression
  if ← acceptMark "/" then pure ()
  else if ← acceptMark "*" then
    if isName (← peek) then
      let _ ← take
      annotation
  else if ← acceptMark "**" then
    let _ ← name
    annotation
  else
    let _ ← name
    annotation
    if ← acceptMark "=" then
      let _ ← readers.expression

/-- Reads the rest of a function. -/
def functionDefinition (decorators : List String) : Reader Statement := do
  let called ← name
  typeParameters readers
  let _ ← mark "("
  let _ ← listUpTo ")" (parameter readers)
  if ← acceptMark "->" then
    let _ ← readers.expression
  return .functionDef called.text decorators (← body)

/-- Reads the rest of a class that begins on a given line. -/
def classDefinition (line : Nat) : Reader Statement := do
  let called ← name
  typeParameters readers
  if isMark "(" (← peek) then
    let _ ← readers.arguments
  return .classDef called.text line (← body)

/-- Reads a class or a function that is decorated, its decorators having been read. -/
def definition (decorators : List String) : Reader Statement := do
  let token ← peek
  if ← acceptWord "class" then classDefinition readers body token.line
  else
    let _ ← acceptWord "async"
    let _ ← word "def"
    functionDefinition readers body decorators

/-- Reads a decorator: all that stands on its line counts, a comment included. -/
def decorator : Reader String := do
  let sign ← mark "@"
  let _ ← named readers.expression
  let ending ← ofKind .lineEnd
  return Text.trim (← slice sign.stop ending.start)

/-- Reads a definition with decorators. -/
def decorated : Reader Statement := do
  let decorators ← many do
    if isMark "@" (← peek) then return some (← decorator readers) else return none
  definition readers body decorators

/-- Reads what follows the word for concurrency. -/
def asyncStatement : Reader Statement := do
  if ← acceptWord "for" then forStatement readers body
  else if ← acceptWord "with" then withStatement readers body
  else
    let _ ← word "def"
    functionDefinition readers body []

/-- Reads a compound statement, or a line of simple ones. -/
def statementOf : Reader (List Statement) := do
  let token ← peek
  if isMark "@" token then return [← decorated readers body]
  else if ← acceptWord "if" then return [← ifStatement readers body]
  else if ← acceptWord "while" then return [← whileStatement readers body]
  else if ← acceptWord "for" then return [← forStatement readers body]
  else if ← acceptWord "try" then return [← tryStatement readers body]
  else if ← acceptWord "with" then return [← withStatement readers body]
  else if ← acceptWord "async" then return [← asyncStatement readers body]
  else if isWord "class" token || isWord "def" token then
    return [← definition readers body []]
  else if isWord "match" token then
    orElse (List.singleton <$> matchStatement readers body) (simpleLine readers)
  else simpleLine readers

/-- Reads a body behind its colon: a line of simple statements, or an indented block, which may
be missing. -/
def bodyOf (statement : Reader (List Statement)) : Reader (List Statement) := do
  let _ ← mark ":"
  if (← peek).kind = .lineEnd then
    let _ ← take
    if (← peek).kind = .blockStart then
      let _ ← take
      let statements ← many do
        if (← peek).kind = .blockEnd then return none else return some (← statement)
      let _ ← ofKind .blockEnd
      return statements.flatten
    else return []
  else simpleLine readers

end Compound

/-- Reads statements whose blocks are nested to a given depth. -/
def statementWithin (readers : ExpressionReaders) : Nat → Reader (List Statement)
  | 0 => fail
  | depth + 1 => fun source tokens =>
    statementOf readers (bodyOf readers (statementWithin readers depth)) source tokens

def statements (depth : Nat) : Reader (List Statement) := do
  let readers := expressionReaders depth
  let found ← many do
    if (← peek).kind = .sourceEnd then return none
    else return some (← statementWithin readers depth)
  let _ ← ofKind .sourceEnd
  return found.flatten

end NodeLocale.Script.Reader

namespace NodeLocale.Script

/-- The source of a plugin is not valid, and this is the line where that shows. -/
structure SyntaxFault where
  line : Nat
deriving DecidableEq

def SyntaxFault.message (fault : SyntaxFault) : String :=
  "invalid syntax at line " ++ toString fault.line

/-- The fault that a token which does not fit amounts to: a bracket that is opened on an earlier
line and never closed is to blame before anything that follows it. -/
def faultAt (token : Token) (unclosed : List OpenBracket) : SyntaxFault :=
  match token.kind, unclosed with
  | .invalid, _ => ⟨token.line⟩
  | _, bracket :: _ => ⟨min bracket.line token.line⟩
  | _, [] => ⟨token.line⟩

/-- Reads the source of a plugin. -/
def Program.parse (source : String) : Except SyntaxFault Program :=
  let characters := source.toList
  let lexed := lex characters
  match Reader.statements (lexed.tokens.length + 1) characters.toArray lexed.tokens with
  | .ok (body, _) => .ok ⟨body⟩
  | .error token => .error (faultAt token lexed.unclosed)

end NodeLocale.Script
