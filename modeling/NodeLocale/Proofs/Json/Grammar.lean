import NodeLocale.Proofs.Json.ObjectReading

/-!
# The grammar of JSON texts

The grammar says which texts are JSON, whatever a reader makes of them: neither the nesting nor the
size of a number is limited, and an escape may stand for half a character. Readers are compared with
it. A reader recognizes a form of texts if it takes exactly the texts of this form, with white space
in front, and stops right behind them.
-/

namespace NodeLocale.Json

open Reader

/-- Whether a text is white space. -/
abbrev Gap (text : List Char) : Prop := ∀ c ∈ text, isGap c = true

/-! ### Strings -/

/-- What may stand between the quotes of a string. -/
inductive StringBody : List Char → Prop
  | nil : StringBody []
  | plain {c : Char} {rest : List Char} (noQuote : c ≠ '"') (noBackslash : c ≠ '\\')
      (printable : 32 ≤ c.toNat) (tail : StringBody rest) : StringBody (c :: rest)
  | letter {letter escaped : Char} {rest : List Char}
      (known : simpleEscape? letter = some escaped) (tail : StringBody rest) :
      StringBody ('\\' :: letter :: rest)
  | code {a b c d : Char} {code : Nat} {rest : List Char} (hex : fourHex? a b c d = some code)
      (tail : StringBody rest) : StringBody ('\\' :: 'u' :: a :: b :: c :: d :: rest)

/-- Which characters a text between quotes stands for, if it stands for whole characters. -/
inductive Spells : List Char → List Char → Prop
  | nil : Spells [] []
  | plain {c : Char} {rest letters : List Char} (noQuote : c ≠ '"') (noBackslash : c ≠ '\\')
      (printable : 32 ≤ c.toNat) (tail : Spells rest letters) : Spells (c :: rest) (c :: letters)
  | letter {letter escaped : Char} {rest letters : List Char}
      (known : simpleEscape? letter = some escaped) (tail : Spells rest letters) :
      Spells ('\\' :: letter :: rest) (escaped :: letters)
  | code {a b c d : Char} {code : Nat} {rest letters : List Char}
      (hex : fourHex? a b c d = some code) (whole : code < 0xd800 ∨ 0xdfff < code)
      (tail : Spells rest letters) :
      Spells ('\\' :: 'u' :: a :: b :: c :: d :: rest) (Char.ofNat code :: letters)
  | pair {a b c d a' b' c' d' : Char} {high low : Nat} {rest letters : List Char}
      (hexHigh : fourHex? a b c d = some high) (isHigh : 0xd800 ≤ high ∧ high ≤ 0xdbff)
      (hexLow : fourHex? a' b' c' d' = some low) (isLow : 0xdc00 ≤ low ∧ low ≤ 0xdfff)
      (tail : Spells rest letters) :
      Spells ('\\' :: 'u' :: a :: b :: c :: d :: '\\' :: 'u' :: a' :: b' :: c' :: d' :: rest)
        (Char.ofNat ((high - 0xd800) * 0x400 + (low - 0xdc00) + 0x10000) :: letters)

theorem Spells.stringBody {body letters : List Char} (spells : Spells body letters) :
    StringBody body := by
  induction spells with
  | nil => exact .nil
  | plain noQuote noBackslash printable tail ih => exact .plain noQuote noBackslash printable ih
  | letter known tail ih => exact .letter known ih
  | code hex whole tail ih => exact .code hex ih
  | pair hexHigh isHigh hexLow isLow tail ih => exact .code hexHigh (.code hexLow ih)

/-- Whether a text is a string in its quotes. -/
def StringText (text : List Char) (value : String) : Prop :=
  ∃ body, text = '"' :: (body ++ ['"']) ∧ Spells body value.toList

/-! ### Numbers -/

/-- Whether a text is a run of digits. -/
structure Digits (text : List Char) : Prop where
  nonempty : text ≠ []
  all : ∀ c ∈ text, isDigit c = true

/-- The whole part of a number. -/
inductive WholePart : List Char → Prop
  | zero : WholePart ['0']
  | digits {first : Char} {rest : List Char} (digit : isDigit first = true)
      (notZero : first ≠ '0') (more : ∀ c ∈ rest, isDigit c = true) : WholePart (first :: rest)

inductive FractionPart : List Char → Prop
  | none : FractionPart []
  | places {text : List Char} (digits : Digits text) : FractionPart ('.' :: text)

/-- The sign of an exponent, if it has one. -/
def IsSign (sign : List Char) : Prop := sign = [] ∨ sign = ['+'] ∨ sign = ['-']

inductive ExponentPart : List Char → Prop
  | none : ExponentPart []
  | power {letter : Char} {sign text : List Char} (isLetter : letter = 'e' ∨ letter = 'E')
      (isSign : IsSign sign) (digits : Digits text) :
      ExponentPart (letter :: (sign ++ text))

/-- What may follow the whole part of a number. -/
inductive NumberTail : List Char → Prop
  | parts {fraction exponent : List Char} (isFraction : FractionPart fraction)
      (isExponent : ExponentPart exponent) : NumberTail (fraction ++ exponent)

/-- A number without a sign. -/
inductive UnsignedNumber : List Char → Prop
  | parts {whole tail : List Char} (isWhole : WholePart whole) (isTail : NumberTail tail) :
      UnsignedNumber (whole ++ tail)

inductive NumberText : List Char → Prop
  | unsigned {text : List Char} (isNumber : UnsignedNumber text) : NumberText text
  | negative {text : List Char} (isNumber : UnsignedNumber text) : NumberText ('-' :: text)

/-! ### Values -/

/-- The character that closes an array or an object. -/
def Reader.Enclosing.closing : Enclosing → Char
  | .list => ']'
  | .object => '\x7d'

/-- An element of an array or a member of an object: the text of its value and, for a member, its
key, if that is spelled out. -/
structure Item where
  key : Option String
  text : List Char

/-- Whether the text between the quotes of a key gives a key. -/
def KeyBody (body : List Char) : Option String → Prop
  | some key => Spells body key.toList
  | none => StringBody body ∧ ∀ letters, ¬Spells body letters

/-- What may stand in front of an item, behind the opening bracket or else behind an item. -/
inductive Separator : Bool → List Char → Prop
  | opening {gap : List Char} (blank : Gap gap) : Separator true gap
  | comma {gap after : List Char} (blank : Gap gap) (blankAfter : Gap after) :
      Separator false (gap ++ ',' :: after)

/-- What a text may be derived from. -/
inductive Symbol
  | value
  /-- What stands between brackets, behind the opening one or else behind an item. -/
  | items (kind : Enclosing) (first : Bool) (contents : List Item)
  | item (kind : Enclosing) (content : Item)

/-- Whether a text is derived from a symbol. -/
inductive Derives : Symbol → List Char → Prop
  | null : Derives .value ['n', 'u', 'l', 'l']
  | true : Derives .value ['t', 'r', 'u', 'e']
  | false : Derives .value ['f', 'a', 'l', 's', 'e']
  | number {text : List Char} (isNumber : NumberText text) : Derives .value text
  | string {body : List Char} (isBody : StringBody body) : Derives .value ('"' :: (body ++ ['"']))
  | array {contents : List Item} {text : List Char}
      (items : Derives (.items .list true contents) text) :
      Derives .value ('[' :: (text ++ [']']))
  | object {contents : List Item} {text : List Char}
      (items : Derives (.items .object true contents) text) :
      Derives .value ('\x7b' :: (text ++ ['\x7d']))
  | none {kind : Enclosing} {first : Bool} {gap : List Char} (blank : Gap gap) :
      Derives (.items kind first []) gap
  | cons {kind : Enclosing} {first : Bool} {content : Item} {contents : List Item}
      {front text rest : List Char} (separates : Separator first front)
      (item : Derives (.item kind content) text)
      (more : Derives (.items kind false contents) rest) :
      Derives (.items kind first (content :: contents)) (front ++ (text ++ rest))
  | element {text : List Char} (value : Derives .value text) :
      Derives (.item .list ⟨none, text⟩) text
  | member {key : Option String} {body before behind text : List Char} (isKey : KeyBody body key)
      (blank : Gap before) (blankBehind : Gap behind) (value : Derives .value text) :
      Derives (.item .object ⟨key, text⟩)
        ('"' :: (body ++ '"' :: (before ++ ':' :: (behind ++ text))))

theorem StringText.derives {text : List Char} {value : String} (isText : StringText text value) :
    Derives .value text := by
  rcases isText with ⟨body, rfl, spells⟩
  exact .string spells.stringBody

/-! ### Readers -/

namespace Reader

/-- Whether a reader takes exactly the texts of a form as their values, white space in front or
not. -/
structure Recognizes {α : Type} (reader : Reader α) (form : List Char → α → Prop) : Prop where
  reads : ∀ {text value}, form text value → Reads reader text value
  read : ∀ {text value rest}, reader text = .ok (value, rest) →
    ∃ gap written, Gap gap ∧ form written value ∧ text = gap ++ written ++ rest

end Reader

end NodeLocale.Json
