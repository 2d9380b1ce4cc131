import NodeLocale.Json.Printer
import NodeLocale.Json.Reader

/-!
# Strings are read back as they were written

Every character of a string is written as itself or as an escape, and the reader undoes each of
them on its own, so a string is read back character by character, whatever follows its closing
quote.
-/

namespace NodeLocale.Json

namespace Reader

theorem skipGap_of_not_isGap {c : Char} (visible : isGap c = false) (rest : List Char) :
    skipGap (c :: rest) = c :: rest := by
  rw [skipGap, List.dropWhile_cons, visible]
  rfl

/-- White space in front of a token is dropped. -/
theorem skipGap_append {gap : List Char} (blank : ∀ c ∈ gap, isGap c = true) {c : Char}
    (visible : isGap c = false) (rest : List Char) : skipGap (gap ++ c :: rest) = c :: rest := by
  rw [skipGap, List.dropWhile_append_of_pos blank]
  exact skipGap_of_not_isGap visible rest

/-- Two hexadecimal digits behind two zeros give the code of a control character. -/
theorem fourHex?_control {code : Nat} (control : code < 32) :
    fourHex? '0' '0' (Nat.digitChar (code / 16)) (Nat.digitChar (code % 16)) = some code := by
  decide +revert

theorem stringBody_simpleEscape {letter escaped : Char}
    (known : simpleEscape? letter = some escaped) (rest : List Char) :
    stringBody ('\\' :: letter :: rest) = prepend escaped (stringBody rest) := by
  rw [stringBody.eq_def]
  simp [known]

theorem stringBody_plain {c : Char} (noQuote : c ≠ '"') (noBackslash : c ≠ '\\')
    (printable : 32 ≤ c.toNat) (rest : List Char) :
    stringBody (c :: rest) = prepend c (stringBody rest) := by
  rw [stringBody.eq_def]
  simp [noQuote, noBackslash, Nat.not_lt.2 printable]

theorem stringBody_control {code : Nat} (control : code < 32) (rest : List Char) :
    stringBody ('\\' :: 'u' :: '0' :: '0' :: Nat.digitChar (code / 16) ::
      Nat.digitChar (code % 16) :: rest) = prepend (Char.ofNat code) (stringBody rest) := by
  have unescaped : simpleEscape? 'u' = none := rfl
  have low : ¬ 0xdc00 ≤ code := by omega
  have early : code < 0xd800 := by omega
  rw [stringBody.eq_def]
  simp [unescaped, fourHex?_control control, low, early]

/-- The reader undoes the writing of one character. -/
theorem stringBody_escapeChar (c : Char) (rest : List Char) :
    stringBody (escapeChar c ++ rest) = prepend c (stringBody rest) := by
  rw [escapeChar]
  -- The seven characters that have an escape of one letter.
  iterate 7
    split
    · subst c
      exact stringBody_simpleEscape rfl rest
  split
  · rename_i control
    have read := stringBody_control control rest
    rwa [Char.ofNat_toNat] at read
  · rename_i noQuote noBackslash _ _ _ _ _ printable
    exact stringBody_plain noQuote noBackslash (Nat.not_lt.1 printable) rest

/-- The reader stops behind the closing quote. -/
theorem stringBody_flatMap_escapeChar (letters rest : List Char) :
    stringBody (letters.flatMap escapeChar ++ '"' :: rest) = .ok (letters, rest) := by
  induction letters with
  | nil =>
    rw [List.flatMap_nil, List.nil_append, stringBody.eq_def]
    simp
  | cons c letters ih =>
    rw [List.flatMap_cons, List.append_assoc, stringBody_escapeChar, ih]
    rfl

/-- A string is read back behind its opening quote. -/
theorem text_escaped (value : String) (rest : List Char) :
    text (value.toList.flatMap escapeChar ++ '"' :: rest) = .ok (value, rest) := by
  rw [text, stringBody_flatMap_escapeChar]
  simp

end Reader

end NodeLocale.Json
