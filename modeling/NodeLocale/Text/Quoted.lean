import NodeLocale.Text.Printable

/-!
# Quoted text

Messages quote a text so that every character of it can be told apart: the usual backslash
forms for the usual characters, and the code point in hexadecimal for a character that is not
printable or that attaches to the one before it.
-/

namespace NodeLocale.Text

/-- The lowercase hexadecimal digits of a number. -/
def hexDigits (value : Nat) : List Char := Nat.toDigits 16 value

/-- A character by its code point. -/
def byCodePoint (c : Char) : List Char :=
  ['\\', 'u', '\x7b'] ++ hexDigits c.toNat ++ ['\x7d']

/-- A character as it stands between quotes; `single` asks for single quotes to be marked. -/
def quotedChar (single : Bool) (c : Char) : List Char :=
  match c with
  | '\x00' => ['\\', '0']
  | '\t' => ['\\', 't']
  | '\r' => ['\\', 'r']
  | '\n' => ['\\', 'n']
  | '\\' => ['\\', '\\']
  | '"' => ['\\', '"']
  | '\'' => if single then ['\\', '\''] else ['\'']
  | c =>
    if 32 ≤ c.toNat && c.toNat < 127 then [c]
    else if isAttaching c || !isPrintable c then byCodePoint c
    else [c]

/-- A text between double quotes. -/
def quoted (text : String) : String :=
  String.ofList ('"' :: text.toList.flatMap (quotedChar false) ++ ['"'])

/-- A path between double quotes; single quotes in it are marked too. -/
def quotedPath (text : String) : String :=
  String.ofList ('"' :: text.toList.flatMap (quotedChar true) ++ ['"'])

end NodeLocale.Text
