import NodeLocale.Json.Value

/-!
# Writing JSON

Artifacts are written with one member or element a line, indented by two spaces for each level;
requests to a translator are written without any white space. Characters other than quotes,
backslashes and control characters are written as they are.
-/

namespace NodeLocale.Json

/-- A character as it stands in a string. -/
def escapeChar (c : Char) : List Char :=
  if c = '"' then ['\\', '"']
  else if c = '\\' then ['\\', '\\']
  else if c = '\n' then ['\\', 'n']
  else if c = '\r' then ['\\', 'r']
  else if c = '\t' then ['\\', 't']
  else if c = '\x08' then ['\\', 'b']
  else if c = '\x0c' then ['\\', 'f']
  else if c.toNat < 32 then
    ['\\', 'u', '0', '0', Nat.digitChar (c.toNat / 16), Nat.digitChar (c.toNat % 16)]
  else [c]

/-- A string with its quotes. -/
def stringChars (text : String) : List Char := '"' :: text.toList.flatMap escapeChar ++ ['"']

mutual

/-- The text of a value without white space. -/
def compactChars : Json → List Char
  | null => ['n', 'u', 'l', 'l']
  | bool true => ['t', 'r', 'u', 'e']
  | bool false => ['f', 'a', 'l', 's', 'e']
  | number value => value.text.toList
  | string value => stringChars value
  | array items => '[' :: compactItems items ++ [']']
  | object entries => '\x7b' :: compactEntries entries ++ ['\x7d']

/-- The texts of the elements of an array, separated by commas. -/
def compactItems : List Json → List Char
  | [] => []
  | [item] => compactChars item
  | item :: rest => compactChars item ++ ',' :: compactItems rest

/-- The texts of the members of an object, separated by commas. -/
def compactEntries : List (String × Json) → List Char
  | [] => []
  | [(key, item)] => stringChars key ++ ':' :: compactChars item
  | (key, item) :: rest =>
    stringChars key ++ ':' :: compactChars item ++ ',' :: compactEntries rest

end

/-- A line break and the indentation of a level. -/
def newline (level : Nat) : List Char := '\n' :: List.replicate (2 * level) ' '

mutual

/-- The indented text of a value that stands at a level. -/
def prettyChars (level : Nat) : Json → List Char
  | null => ['n', 'u', 'l', 'l']
  | bool true => ['t', 'r', 'u', 'e']
  | bool false => ['f', 'a', 'l', 's', 'e']
  | number value => value.text.toList
  | string value => stringChars value
  | array [] => ['[', ']']
  | array (item :: rest) =>
    '[' :: newline (level + 1) ++ prettyChars (level + 1) item ++
      prettyItems (level + 1) rest ++ newline level ++ [']']
  | object [] => ['\x7b', '\x7d']
  | object ((key, item) :: rest) =>
    '\x7b' :: newline (level + 1) ++ stringChars key ++ [':', ' '] ++
      prettyChars (level + 1) item ++ prettyEntries (level + 1) rest ++
      newline level ++ ['\x7d']

/-- The lines of the elements behind the first, each with the comma before it. -/
def prettyItems (level : Nat) : List Json → List Char
  | [] => []
  | item :: rest =>
    ',' :: newline level ++ prettyChars level item ++ prettyItems level rest

/-- The lines of the members behind the first, each with the comma before it. -/
def prettyEntries (level : Nat) : List (String × Json) → List Char
  | [] => []
  | (key, item) :: rest =>
    ',' :: newline level ++ stringChars key ++ [':', ' '] ++ prettyChars level item ++
      prettyEntries level rest

end

/-- The text of a value without white space. -/
def compact (json : Json) : String := String.ofList json.compactChars

/-- The indented text of a value. -/
def pretty (json : Json) : String := String.ofList (json.prettyChars 0)

end NodeLocale.Json
