import NodeLocale.Text.CharClass

/-!
# String literals

What a string literal denotes. Eight escapes stand for one character or none, and three more
give the number of a character with a fixed count of hexadecimal digits; whatever is no such
escape stands for itself, backslash included. In a raw literal nothing is an escape.
-/

namespace NodeLocale.Script.Literal

/-- What an escape without digits stands for. An escaped line break stands for nothing. -/
def simpleEscape? (letter : Char) : Option (List Char) :=
  match letter with
  | 'n' => some ['\n']
  | 't' => some ['\t']
  | 'r' => some ['\r']
  | '0' => some ['\x00']
  | '\\' => some ['\\']
  | '\'' => some ['\'']
  | '"' => some ['"']
  | '\n' => some []
  | _ => none

/-- The number of digits that an escape by number takes. -/
def codeWidth? (letter : Char) : Option Nat :=
  match letter with
  | 'x' => some 2
  | 'u' => some 4
  | 'U' => some 8
  | _ => none

/-- The value of hexadecimal digits that follow those of a given value. -/
def appendHex (value : Nat) : List Char → Option Nat
  | [] => some value
  | c :: rest =>
    match Text.hexValue? c with
    | some digit => appendHex (16 * value + digit) rest
    | none => none

/-- The number that some characters write; a plus sign may stand in front. -/
def hexNumber? : List Char → Option Nat
  | [] => none
  | ['+'] => none
  | '+' :: digits => appendHex 0 digits
  | digits => appendHex 0 digits

/-- The character with a number. -/
def charOf? (code : Nat) : Option Char :=
  if code.isValidChar then some (Char.ofNat code) else none

/-- What an escape by number stands for: the character, or itself if there is none. -/
def codeEscape (letter : Char) (digits : List Char) : List Char :=
  match (hexNumber? digits).bind charOf? with
  | some decoded => [decoded]
  | none => '\\' :: letter :: digits

/-- What the text between the quotes of a literal stands for. -/
def unescape : List Char → List Char
  | [] => []
  | ['\\'] => ['\\']
  | '\\' :: letter :: rest =>
    match simpleEscape? letter with
    | some decoded => decoded ++ unescape rest
    | none =>
      match codeWidth? letter with
      | some width => codeEscape letter (rest.take width) ++ unescape (rest.drop width)
      | none => '\\' :: letter :: unescape rest
  | c :: rest => c :: unescape rest
termination_by text => text.length
decreasing_by
  all_goals
    simp only [List.length_cons, List.length_drop]
    omega

def isQuote (c : Char) : Bool := c = '"' || c = '\''

/-- Whether a text begins with three equal quotes. -/
def isTripled : List Char → Bool
  | a :: b :: c :: _ => isQuote a && a == b && b == c
  | _ => false

/-- What a whole literal denotes, its letters in front and its quotes included. -/
def denoted (literal : List Char) : List Char :=
  let letters := literal.takeWhile fun c => !isQuote c
  let quotedText := literal.dropWhile fun c => !isQuote c
  let width := if isTripled quotedText then 3 else 1
  let body := (quotedText.drop width).take (quotedText.length - 2 * width)
  if letters.any fun c => c = 'r' || c = 'R' then body else unescape body

end NodeLocale.Script.Literal
