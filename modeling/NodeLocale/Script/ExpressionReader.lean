import NodeLocale.Script.Reader

/-!
# Reading expressions

An expression is read into what it denotes together with its extent in the source. Operators
need no precedence here, since whatever is built with an operator is kept as the text between
its ends. The readers for the parts of an expression take the reader for whole expressions as an
argument; `expression` ties the knot, one level of nesting at a time.
-/

namespace NodeLocale.Script

/-- What an expression may be used for besides its value. -/
inductive PieceUse
  | name
  /-- It is something else that can be assigned to. -/
  | place
  | value
deriving DecidableEq

/-- An expression with its extent in the source. -/
structure Piece where
  value : Expression
  /-- What it may be used for. -/
  use : PieceUse
  /-- The index of the first character. -/
  start : Nat
  /-- The index behind the last character. -/
  stop : Nat

namespace Piece

/-- Whether the expression can be assigned to. -/
def assignable (piece : Piece) : Bool := piece.use != .value

/-- The name that is bound when the expression is assigned to. -/
def boundName? (piece : Piece) : Option String :=
  match piece.use, piece.value with
  | .name, .name text => some text
  | _, _ => none

end Piece

namespace Reader

/-- An expression that is kept as it stands in the source. -/
def verbatim (use : PieceUse) (start stop : Nat) : Reader Piece := do
  return ⟨.other (← slice start stop), use, start, stop⟩

/-- How several expressions together can be used. -/
def useOf (items : List Piece) : PieceUse := if items.all Piece.assignable then .place else .value

/-- Whether an expression can begin with a token. -/
def beginsExpression (token : Token) : Bool :=
  match token.kind with
  | .name =>
    isName token || ["False", "None", "True", "await", "lambda", "not"].contains token.text
  | .number => true
  | .string _ => true
  | .mark => ["(", "[", "\x7b", "+", "-", "~", "...", "*"].contains token.text
  | _ => false

/-- Whether an operator stands between two operands; the second operand may be negated by a word
when the operator joins truth values. -/
inductive Joint
  /-- A word that joins truth values. -/
  | logical
  | plain

def operatorMarks : List String :=
  ["+", "-", "*", "/", "//", "%", "@", "**", "<<", ">>", "&", "|", "^", "<", ">", "==", ">=",
    "<=", "!="]

/-- Reads an operator between two operands, if one is next. -/
def joint : Reader (Option Joint) := do
  let token ← peek
  if token.kind = .mark then
    if operatorMarks.contains token.text then
      let _ ← take
      return some .plain
    else return none
  else if isWord "and" token || isWord "or" token then
    let _ ← take
    return some .logical
  else if isWord "in" token then
    let _ ← take
    return some .plain
  else if isWord "is" token then
    let _ ← take
    let _ ← acceptWord "not"
    return some .plain
  else if isWord "not" token then
    if isWord "in" (← peekSecond) then
      let _ ← take
      let _ ← take
      return some .plain
    else return none
  else return none

section

variable (expression : Reader Piece)

/-- Reads an expression that may bind a name. -/
def named : Reader Piece := do
  let first ← peek
  if isName first && isMark ":=" (← peekSecond) then
    let _ ← take
    let _ ← take
    let bound ← expression
    verbatim .value first.start bound.stop
  else expression

/-- Reads an expression, or one that is spread by a star. -/
def spread (item : Reader Piece) : Reader Piece := do
  let first ← peek
  if ← acceptMark "*" then
    let inner ← expression
    verbatim inner.use first.start inner.stop
  else item

/-- Reads an element of a list or tuple. -/
def element : Reader Piece := spread expression (named expression)

/-- Reads expressions separated by commas; one comma makes a tuple. -/
def expressions : Reader Piece := do
  let (items, isTuple) ← separated beginsExpression (spread expression expression)
  match items, isTuple with
  | [item], false => return item
  | _, _ =>
    let start := (items.head?.map Piece.start).getD 0
    let stop := (items.getLast?.map Piece.stop).getD 0
    return ⟨.tuple (items.map Piece.value), useOf items, start, stop⟩

/-- Reads an expression that a generator yields to its caller. -/
def yielded : Reader Piece := do
  let first ← word "yield"
  if ← acceptWord "from" then
    let inner ← expression
    verbatim .value first.start inner.stop
  else if beginsExpression (← peek) then
    let inner ← expressions expression
    verbatim .value first.start inner.stop
  else verbatim .value first.start first.stop

/-- Reads the right side of an assignment. -/
def rightSide : Reader Piece := do
  if isWord "yield" (← peek) then yielded expression else expressions expression

/-- Reads the argument of a call. -/
def argument : Reader Unit := do
  let first ← peek
  if ← acceptMark "*" then
    let _ ← expression
  else if ← acceptMark "**" then
    let _ ← expression
  else if isName first && isMark "=" (← peekSecond) then
    let _ ← take
    let _ ← take
    let _ ← expression
  else
    let _ ← named expression

/-- Reads an index or a slice. -/
def subscript : Reader Unit := do
  if isMark ":" (← peek) then pure ()
  else
    let _ ← element expression
  if ← acceptMark ":" then
    if beginsExpression (← peek) then
      let _ ← expression
    if ← acceptMark ":" then
      if beginsExpression (← peek) then
        let _ ← expression

/-- Reads the strings that stand side by side. -/
def strings : Reader Piece := do
  let isString (token : Token) : Bool :=
    match token.kind with
    | .string _ => true
    | _ => false
  let parts ← many do
    if isString (← peek) then return some (← take) else return none
  let start := (parts.head?.map Token.start).getD 0
  let stop := (parts.getLast?.map Token.stop).getD 0
  if parts.any fun token => token.kind = .string true then verbatim .value start stop
  else
    let texts := parts.map fun token => String.ofList (Literal.denoted token.text.toList)
    return ⟨.string (String.join texts), .value, start, stop⟩

/-- Reads the parameters of a function that has no body of its own. -/
def lambdaParameter : Reader Unit := do
  if ← acceptMark "/" then pure ()
  else if ← acceptMark "*" then
    if isName (← peek) then
      let _ ← take
  else if ← acceptMark "**" then
    let _ ← name
  else
    let _ ← name
    if ← acceptMark "=" then
      let _ ← expression

/-- Reads a function that is an expression. -/
def lambda : Reader Piece := do
  let first ← word "lambda"
  if isMark ":" (← peek) then pure ()
  else
    let _ ← separated (fun token => !isMark ":" token) (lambdaParameter expression)
  let _ ← mark ":"
  let body ← expression
  verbatim .value first.start body.stop

end

section

variable (atom : Reader Piece) (arguments subscripts : Reader Token)

/-- Reads one step of an access to a part of a value: a member, a call or an index. Gives the
last token and whether the result can be assigned to. -/
def access : Reader (Option (Token × PieceUse)) := do
  if ← acceptMark "." then
    return some (← name, .place)
  else if isMark "(" (← peek) then
    return some (← arguments, .value)
  else if isMark "[" (← peek) then
    return some (← subscripts, .place)
  else return none

/-- Reads a value and accesses to its parts. -/
def primary : Reader Piece := do
  let head ← atom
  let steps ← many (access arguments subscripts)
  match steps.getLast? with
  | none => return head
  | some (last, use) => verbatim use head.start last.stop

/-- Reads an operand with the signs in front of it. -/
def operand (negatable : Bool) : Reader Piece := do
  let first ← peek
  let negations ←
    if negatable then
      many do
        if ← acceptWord "not" then return some () else return none
    else pure []
  let signs ← many do
    if ← accept fun token => isMark "+" token || isMark "-" token || isMark "~" token then
      return some ()
    else return none
  let awaits ← acceptWord "await"
  let inner ← primary atom arguments subscripts
  if negations.isEmpty && signs.isEmpty && !awaits then return inner
  else verbatim .value first.start inner.stop

/-- Reads operands with operators between them. -/
def operands : Reader Piece := do
  let first ← operand atom arguments subscripts true
  let more ← many do
    match ← joint with
    | none => return none
    | some .logical => return some (← operand atom arguments subscripts true)
    | some .plain => return some (← operand atom arguments subscripts false)
  match more.getLast? with
  | none => return first
  | some last => verbatim .value first.start last.stop

/-- Reads the names and places that a loop binds. -/
def targets : Reader Unit := do
  let item : Reader Unit := do
    let _ ← acceptMark "*"
    let start ← get
    let bound ← primary atom arguments subscripts
    if bound.assignable then pure () else set start; fail
  let _ ← separated beginsExpression item

/-- Whether a loop inside an expression is next. -/
def atComprehension : Reader Bool := do
  let token ← peek
  return isWord "for" token || (isWord "async" token && isWord "for" (← peekSecond))

/-- Reads the loops and conditions inside an expression. -/
def comprehension : Reader Unit := do
  let _ ← many do
    if ← atComprehension then
      let _ ← acceptWord "async"
      let _ ← word "for"
      targets atom arguments subscripts
      let _ ← word "in"
      let _ ← operands atom arguments subscripts
      return some ()
    else if ← acceptWord "if" then
      let _ ← operands atom arguments subscripts
      return some ()
    else return none

end

section

variable (expression : Reader Piece) (loops : Reader Unit)

/-- Reads what stands between parentheses. -/
def parenthesized : Reader Piece := do
  let opening ← mark "("
  if isMark ")" (← peek) then
    let closing ← take
    return ⟨.tuple [], .place, opening.start, closing.stop⟩
  else if isWord "yield" (← peek) then
    let inner ← yielded expression
    let closing ← mark ")"
    return ⟨inner.value, .value, opening.start, closing.stop⟩
  else
    let isSpread := isMark "*" (← peek)
    let first ← element expression
    if ← atComprehension then
      loops
      let closing ← mark ")"
      verbatim .value opening.start closing.stop
    else if isSpread || isMark "," (← peek) then
      let _ ← mark ","
      let others ←
        if isMark ")" (← peek) then pure []
        else
          Prod.fst <$> separated (fun token => !isMark ")" token) (element expression)
      let closing ← mark ")"
      let items := first :: others
      return ⟨.tuple (items.map Piece.value), useOf items, opening.start, closing.stop⟩
    else
      let closing ← mark ")"
      return ⟨first.value, if first.assignable then .place else .value, opening.start,
        closing.stop⟩

/-- Reads what stands between square brackets. -/
def bracketed : Reader Piece := do
  let opening ← mark "["
  if isMark "]" (← peek) then
    let closing ← take
    return ⟨.list [], .place, opening.start, closing.stop⟩
  else
    let first ← element expression
    if ← atComprehension then
      loops
      let closing ← mark "]"
      verbatim .value opening.start closing.stop
    else
      let others ←
        if ← acceptMark "," then
          if isMark "]" (← peek) then pure []
          else
            Prod.fst <$> separated (fun token => !isMark "]" token) (element expression)
        else pure []
      let closing ← mark "]"
      let items := first :: others
      return ⟨.list (items.map Piece.value), useOf items, opening.start, closing.stop⟩

/-- Reads an entry of a dictionary; a spread entry gives no pair. -/
def dictEntry : Reader (Option (Expression × Expression)) := do
  if ← acceptMark "**" then
    let _ ← expression
    return none
  else
    let key ← expression
    let _ ← mark ":"
    let value ← expression
    return some (key.value, value.value)

/-- Reads what is left of braces behind the first item and the comma that may follow it. -/
def restOfBraces {α : Type} (item : Reader α) : Reader (List α) := do
  if ← acceptMark "," then
    if isMark "\x7d" (← peek) then return []
    else return (← separated (fun token => !isMark "\x7d" token) item).1
  else return []

/-- Reads what stands between braces: a dictionary, a set, or a loop that makes one. -/
def braced : Reader Piece := do
  let opening ← mark "\x7b"
  if isMark "\x7d" (← peek) then
    let closing ← take
    return ⟨.dict [], .value, opening.start, closing.stop⟩
  else if ← acceptMark "**" then
    let _ ← expression
    let others ← restOfBraces (dictEntry expression)
    let closing ← mark "\x7d"
    return ⟨.dict (others.filterMap id), .value, opening.start, closing.stop⟩
  else
    let first ← element expression
    if ← acceptMark ":" then
      let value ← expression
      if ← atComprehension then
        loops
        let closing ← mark "\x7d"
        verbatim .value opening.start closing.stop
      else
        let others ← restOfBraces (dictEntry expression)
        let closing ← mark "\x7d"
        let entries := (first.value, value.value) :: others.filterMap id
        return ⟨.dict entries, .value, opening.start, closing.stop⟩
    else
      if ← atComprehension then loops
      else
        let _ ← restOfBraces (element expression)
      let closing ← mark "\x7d"
      verbatim .value opening.start closing.stop

/-- Reads a value that is no access and no operation. -/
def atomOf : Reader Piece := do
  let token ← peek
  match token.kind with
  | .name =>
    if isName token then
      let _ ← take
      return ⟨.name token.text, .name, token.start, token.stop⟩
    else if ["False", "None", "True"].contains token.text then
      let _ ← take
      verbatim .value token.start token.stop
    else fail
  | .number =>
    let _ ← take
    verbatim .value token.start token.stop
  | .string _ => strings
  | .mark =>
    if token.text = "(" then parenthesized expression loops
    else if token.text = "[" then bracketed expression loops
    else if token.text = "\x7b" then braced expression loops
    else if token.text = "..." then
      let _ ← take
      verbatim .value token.start token.stop
    else fail
  | _ => fail

/-- Reads the arguments of a call and gives the closing parenthesis. -/
def callArguments : Reader Token := do
  let _ ← mark "("
  if isMark ")" (← peek) then take
  else
    argument expression
    if ← atComprehension then loops
    else if ← acceptMark "," then
      if isMark ")" (← peek) then pure ()
      else
        let _ ← separated (fun token => !isMark ")" token) (argument expression)
    mark ")"

/-- Reads the indices of an access and gives the closing bracket. -/
def subscripts : Reader Token := do
  let _ ← mark "["
  let _ ← separated (fun token => !isMark "]" token) (subscript expression)
  mark "]"

end

/-- The parts of expressions that statements are made of. -/
structure ExpressionReaders where
  expression : Reader Piece
  /-- Reads a value and accesses to its parts. -/
  primary : Reader Piece
  /-- Reads what a loop binds. -/
  targets : Reader Unit
  /-- Reads the arguments of a call. -/
  arguments : Reader Token

/-- The readers for the parts of expressions, given the reader for the expressions and for the
loops in them. -/
def readersOf (expression : Reader Piece) (loops : Reader Unit) :
    Reader Piece × Reader Token × Reader Token :=
  (atomOf expression loops, callArguments expression loops, subscripts expression)

/-- Reads a whole expression, given readers for what is nested in it. -/
def conditional (expression : Reader Piece) (loops : Reader Unit) : Reader Piece := do
  let (atom, arguments, indices) := readersOf expression loops
  if isWord "lambda" (← peek) then lambda expression
  else
    let first ← operands atom arguments indices
    if ← acceptWord "if" then
      let _ ← operands atom arguments indices
      let _ ← word "else"
      let otherwise ← expression
      verbatim .value first.start otherwise.stop
    else return first

/-- Reads an expression, and the loops in expressions, to a given depth of nesting. -/
def nested : Nat → Reader Piece × Reader Unit
  | 0 => (fail, fail)
  | depth + 1 =>
    (fun source tokens => conditional (nested depth).1 (nested depth).2 source tokens,
      fun source tokens =>
        let (atom, arguments, indices) := readersOf (nested depth).1 (nested depth).2
        comprehension atom arguments indices source tokens)

/-- The readers for expressions of a given depth of nesting. -/
def expressionReaders (depth : Nat) : ExpressionReaders :=
  let expression := (nested depth).1
  let (atom, arguments, indices) := readersOf expression (nested depth).2
  { expression
    primary := primary atom arguments indices
    targets := targets atom arguments indices
    arguments := callArguments expression (nested depth).2 }

end Reader

end NodeLocale.Script
