import Mathlib.Data.List.Forall2
import Mathlib.Data.Nat.Digits.Defs
import NodeLocale.Script.Literal

/-!
# Spellings of a text

There are many ways to spell a text between quotes. A character stands for itself unless it is a
backslash, some characters have a named escape, all of them can be given by number, and a line may
be broken behind a backslash between any two characters. Whichever way is taken at each place,
unescaping gives back the text that was spelled.

The reason is that every piece says itself where it ends: a name takes one letter, and a number as
many digits as its letter announces. So a piece is taken off the front with its own characters and
no others, and what follows it is read as if it stood alone.
-/

namespace NodeLocale.Script.Literal

/-! ### Spellings -/

/-- The letters that stand for a character behind a backslash. -/
inductive Names : Char → Char → Prop
  | lineFeed : Names 'n' '\n'
  | tab : Names 't' '\t'
  | carriageReturn : Names 'r' '\r'
  | backslash : Names '\\' '\\'
  | singleQuote : Names '\'' '\''
  | doubleQuote : Names '"' '"'

/-- The letters that announce a number of so many digits behind a backslash. -/
inductive Announces : Char → Nat → Prop
  | two : Announces 'x' 2
  | four : Announces 'u' 4
  | eight : Announces 'U' 8

/-- Whether a character is the hexadecimal digit of a value, in either case. -/
def IsHexDigit (c : Char) (value : Nat) : Prop :=
  value < 16 ∧ (c = value.digitChar ∨ c = value.digitChar.toUpper)

/-- Whether hexadecimal digits write a number, the most significant digit first. -/
def WritesHex (digits : List Char) (code : Nat) : Prop :=
  ∃ values, List.Forall₂ IsHexDigit digits values ∧ Nat.ofDigits 16 values.reverse = code

def IsOctalDigit (c : Char) : Prop := '0' ≤ c ∧ c ≤ '7'

/-- Whether what stands between the quotes of a literal spells a text, character by character. -/
inductive Spells : List Char → List Char → Prop
  | nil : Spells [] []
  | plain {c : Char} {text meaning : List Char} (ordinary : c ≠ '\\')
      (rest : Spells text meaning) : Spells (c :: text) (c :: meaning)
  | named {letter c : Char} {text meaning : List Char} (names : Names letter c)
      (rest : Spells text meaning) : Spells ('\\' :: letter :: text) (c :: meaning)
  -- An octal digit behind the zero would be one more digit of the same number.
  | null {text meaning : List Char} (noDigit : ∀ next ∈ text.head?, ¬IsOctalDigit next)
      (rest : Spells text meaning) : Spells ('\\' :: '0' :: text) ('\x00' :: meaning)
  | numbered {letter c : Char} {digits text meaning : List Char}
      (announces : Announces letter digits.length) (writes : WritesHex digits c.toNat)
      (rest : Spells text meaning) : Spells ('\\' :: letter :: (digits ++ text)) (c :: meaning)
  | broken {text meaning : List Char} (rest : Spells text meaning) :
      Spells ('\\' :: '\n' :: text) meaning

variable {text meaning digits : List Char} {values : List Nat} {letter c : Char} {code : Nat}

/-- Every text can be spelled. -/
theorem exists_spells (meaning : List Char) : ∃ text, Spells text meaning := by
  induction meaning with
  | nil => exact ⟨[], .nil⟩
  | cons c meaning ih =>
    rcases ih with ⟨text, rest⟩
    by_cases escaped : c = '\\'
    · subst c
      exact ⟨_, .named .backslash rest⟩
    · exact ⟨_, .plain escaped rest⟩

/-! ### Numbers -/

theorem hexValue?_of_isHexDigit {value : Nat} (digit : IsHexDigit c value) :
    Text.hexValue? c = some value := by
  rcases digit with ⟨small, rfl | rfl⟩
  · decide +revert
  · decide +revert

/-- Digits are read from the left, behind those whose value is known. -/
theorem appendHex_of_digits (read : List.Forall₂ IsHexDigit digits values) (known : Nat) :
    appendHex known digits =
      some (16 ^ digits.length * known + Nat.ofDigits 16 values.reverse) := by
  induction read generalizing known with
  | nil => simp [appendHex]
  | @cons c value digits values digit rest ih =>
    have length : values.reverse.length = digits.length := by
      rw [List.length_reverse, rest.length_eq]
    rw [appendHex, hexValue?_of_isHexDigit digit]
    simp only [ih, List.reverse_cons, Nat.ofDigits_append, length, Nat.ofDigits_singleton,
      List.length_cons, pow_succ]
    congr 1
    ring

theorem hexNumber?_of_unsigned (unsigned : c ≠ '+') (digits : List Char) :
    hexNumber? (c :: digits) = appendHex 0 (c :: digits) := by
  rw [hexNumber?]
  all_goals simp [unsigned]

theorem not_isHexDigit_plus (value : Nat) : ¬IsHexDigit '+' value := by
  intro sign
  have read := hexValue?_of_isHexDigit sign
  simp [Text.hexValue?] at read

theorem hexNumber?_of_writesHex (writes : WritesHex digits code) (nonempty : digits ≠ []) :
    hexNumber? digits = some code := by
  rcases writes with ⟨values, read, rfl⟩
  have number := appendHex_of_digits read 0
  cases read with
  | nil => exact absurd rfl nonempty
  | @cons first value digits values digit rest =>
    have unsigned : first ≠ '+' := by
      rintro rfl
      exact not_isHexDigit_plus value digit
    rw [hexNumber?_of_unsigned unsigned, number]
    simp

theorem charOf?_toNat (c : Char) : charOf? c.toNat = some c := by
  have valid : c.toNat.isValidChar := c.valid
  rw [charOf?, if_pos valid, Char.ofNat_toNat]

theorem codeEscape_of_writesHex (letter : Char) (writes : WritesHex digits c.toNat)
    (nonempty : digits ≠ []) : codeEscape letter digits = [c] := by
  simp [codeEscape, hexNumber?_of_writesHex writes nonempty, charOf?_toNat]

/-! ### Taking a piece off the front -/

theorem unescape_plain (ordinary : c ≠ '\\') (text : List Char) :
    unescape (c :: text) = c :: unescape text := by
  rw [unescape]
  · simp [ordinary]
  · simp [ordinary]

theorem unescape_simple {decoded : List Char} (known : simpleEscape? letter = some decoded)
    (text : List Char) : unescape ('\\' :: letter :: text) = decoded ++ unescape text := by
  rw [unescape, known]

theorem simpleEscape?_of_names (names : Names letter c) : simpleEscape? letter = some [c] := by
  cases names <;> rfl

theorem unescape_announced {width : Nat} (announces : Announces letter width)
    (text : List Char) : unescape ('\\' :: letter :: text) =
      codeEscape letter (text.take width) ++ unescape (text.drop width) := by
  cases announces with
  | two | four | eight => simp [unescape, simpleEscape?, codeWidth?]

/-- An announced number takes its own digits and leaves what stands behind them. -/
theorem unescape_numbered (announces : Announces letter digits.length)
    (writes : WritesHex digits c.toNat) (text : List Char) :
    unescape ('\\' :: letter :: (digits ++ text)) = c :: unescape text := by
  have nonempty : digits ≠ [] := by
    rintro rfl
    cases announces
  rw [unescape_announced announces, List.take_left, List.drop_left,
    codeEscape_of_writesHex letter writes nonempty, List.singleton_append]

theorem unescape_of_spells (spells : Spells text meaning) : unescape text = meaning := by
  induction spells with
  | nil => simp [unescape]
  | plain ordinary rest ih => simp [unescape_plain ordinary, ih]
  | named names rest ih => simp [unescape_simple (simpleEscape?_of_names names), ih]
  | null noDigit rest ih =>
    have known : simpleEscape? '0' = some ['\x00'] := rfl
    simp [unescape_simple known, ih]
  | numbered announces writes rest ih => simp [unescape_numbered announces writes, ih]
  | broken rest ih =>
    have known : simpleEscape? '\n' = some [] := rfl
    simp [unescape_simple known, ih]

/-- Every text can be spelled, and however it is spelled, unescaping gives it back. -/
theorem unescape_inverts (meaning : List Char) :
    (∃ text, Spells text meaning) ∧ ∀ text, Spells text meaning → unescape text = meaning :=
  ⟨exists_spells meaning, fun _ => unescape_of_spells⟩

/-- Numbers of two lengths, a zero that only a broken line keeps apart from a digit, and a backslash
in front of a letter that would be a name. -/
def mixedSpelling : List Char :=
  ['\\', 'x', '4', 'A', '\\', '0', '\\', '\n', '7',
    '\\', 'U', '0', '0', '0', '1', 'f', '6', '0', '0', '\\', '\\', 'n']

theorem unescape_inverts_mixedSpelling :
    Spells mixedSpelling ['J', '\x00', '7', '😀', '\\', 'n'] ∧
      unescape mixedSpelling = ['J', '\x00', '7', '😀', '\\', 'n'] := by
  have capital : WritesHex ['4', 'A'] 'J'.toNat :=
    ⟨[4, 10], .cons ⟨by decide, .inl rfl⟩ (.cons ⟨by decide, .inr rfl⟩ .nil), rfl⟩
  have face : WritesHex ['0', '0', '0', '1', 'f', '6', '0', '0'] '😀'.toNat := by
    refine ⟨[0, 0, 0, 1, 15, 6, 0, 0], ?_, by decide⟩
    simp [IsHexDigit]
  have noDigit : ∀ next ∈ some '\\', ¬IsOctalDigit next := by simp [IsOctalDigit]
  have spelled : Spells mixedSpelling ['J', '\x00', '7', '😀', '\\', 'n'] :=
    .numbered .two capital (.null noDigit (.broken (.plain (by decide)
      (.numbered .eight face (.named .backslash (.plain (by decide) .nil))))))
  exact ⟨spelled, (unescape_inverts _).2 _ spelled⟩

end NodeLocale.Script.Literal
