import Mathlib.Data.List.TakeWhile
import NodeLocale.Proofs.Basic
import NodeLocale.Proofs.Json.Grammar
import NodeLocale.Proofs.Text.Words

/-!
# Strings and numbers of the grammar

What takes or passes over a string, a number, white space, a word or a colon does this for the texts
of the grammar and for no others. A number goes as far as it can, so it is passed over as a whole
only in front of a text that does not carry it on.
-/

namespace NodeLocale.Json

open Reader

theorem Digits.exists_cons {digits : List Char} (isRun : Digits digits) :
    ∃ first more, digits = first :: more ∧ isDigit first = true ∧ ∀ c ∈ more, isDigit c = true := by
  cases digits with
  | nil => exact absurd rfl isRun.nonempty
  | cons first more =>
    exact ⟨first, more, rfl, isRun.all first List.mem_cons_self,
      fun c member => isRun.all c (List.mem_cons_of_mem first member)⟩

theorem digits_cons {first : Char} {digits : List Char} (digit : isDigit first = true)
    (more : ∀ c ∈ digits, isDigit c = true) : Digits (first :: digits) :=
  ⟨by simp, by simpa [digit] using more⟩

theorem WholePart.exists_cons {whole : List Char} (isWhole : WholePart whole) :
    ∃ c more, whole = c :: more ∧ isDigit c = true := by
  cases isWhole with
  | zero => exact ⟨_, _, rfl, rfl⟩
  | digits digit notZero more => exact ⟨_, _, rfl, digit⟩

theorem UnsignedNumber.exists_cons {text : List Char} (isNumber : UnsignedNumber text) :
    ∃ c rest, text = c :: rest ∧ isDigit c = true := by
  cases isNumber with
  | parts isWhole isTail =>
    rcases isWhole.exists_cons with ⟨c, more, rfl, digit⟩
    exact ⟨c, _, rfl, digit⟩

/-- No escape is shorter than what it stands for. -/
theorem Spells.length_le {body letters : List Char} (spells : Spells body letters) :
    letters.length ≤ body.length := by
  induction spells with
  | nil => exact Nat.le_refl 0
  | _ =>
    simp only [List.length_cons]
    omega

theorem StringText.length_lt {text : List Char} {value : String} (isText : StringText text value) :
    value.toList.length < text.length := by
  rcases isText with ⟨body, rfl, spells⟩
  have bound := spells.length_le
  simp only [List.length_cons, List.length_append]
  omega

theorem KeyBody.stringBody {body : List Char} {key : Option String} (isKey : KeyBody body key) :
    StringBody body := by
  cases key with
  | none => exact isKey.1
  | some key => exact Spells.stringBody isKey

theorem exists_keyBody {body : List Char} (isBody : StringBody body) : ∃ key, KeyBody body key := by
  by_cases spelled : ∃ letters, Spells body letters
  · rcases spelled with ⟨letters, spells⟩
    exact ⟨some (String.ofList letters), by rwa [KeyBody, String.toList_ofList]⟩
  · exact ⟨none, isBody, not_exists.1 spelled⟩

namespace Reader

variable {text rest body digits : List Char}

/-! ### White space, words and colons -/

theorem gap_nil : Gap [] := by simp [Gap]

theorem endsNumber_nil : EndsNumber [] := by simp [EndsNumber]

theorem gap_append {gap other : List Char} (blank : Gap gap) (blankOther : Gap other) :
    Gap (gap ++ other) := by
  intro c member
  rcases List.mem_append.1 member with member | member
  · exact blank c member
  · exact blankOther c member

/-- What is in front of the text that is left. -/
theorem exists_gap (text : List Char) : ∃ gap, Gap gap ∧ text = gap ++ skipGap text :=
  ⟨text.takeWhile isGap, fun _ member => List.mem_takeWhile_imp member,
    List.takeWhile_append_dropWhile.symm⟩

/-- White space ends where the next token begins. -/
theorem eq_of_gap_append {gap gap' : List Char} (blank : Gap gap) (blank' : Gap gap') {c c' : Char}
    (visible : isGap c = false) (visible' : isGap c' = false) {rest rest' : List Char}
    (same : gap ++ c :: rest = gap' ++ c' :: rest') : c = c' ∧ rest = rest' := by
  have skipped := congrArg skipGap same
  rw [skipGap_append blank visible, skipGap_append blank' visible'] at skipped
  simpa using skipped

theorem word_append (letters rest : List Char) :
    word letters (letters ++ rest) = .ok ((), rest) := by
  induction letters with
  | nil => rfl
  | cons letter letters ih => simp [word, ih]

theorem eq_of_word {letters : List Char} (read : word letters text = .ok ((), rest)) :
    text = letters ++ rest := by
  induction letters generalizing text with
  | nil => simpa [word] using read
  | cons letter letters ih =>
    cases text with
    | nil => simp [word] at read
    | cons c after =>
      by_cases same : c = letter
      · have read : word letters after = .ok ((), rest) := by simpa [word, same] using read
        rw [ih read, same, List.cons_append]
      · simp [word, same] at read

theorem colon_append {gap : List Char} (blank : Gap gap) (rest : List Char) :
    colon (gap ++ ':' :: rest) = .ok ((), rest) := by
  rw [colon, skipGap_append blank rfl]
  rfl

theorem exists_of_colon (read : colon text = .ok ((), rest)) :
    ∃ gap, Gap gap ∧ text = gap ++ ':' :: rest := by
  rcases exists_gap text with ⟨gap, blank, split⟩
  rw [colon] at read
  split at read
  · simp at read
  · rename_i c after found
    by_cases isColon : c = ':'
    · obtain rfl : after = rest := by simpa [isColon] using read
      exact ⟨gap, blank, by rw [split, found, isColon]⟩
    · simp [isColon] at read

/-! ### Strings -/

theorem skipString_of_stringBody (isBody : StringBody body) (rest : List Char) :
    skipString (body ++ '"' :: rest) = .ok ((), rest) := by
  induction isBody with
  | nil =>
    rw [skipString.eq_def]
    simp
  | plain noQuote noBackslash printable tail ih =>
    rw [List.cons_append, skipString.eq_def]
    simp [noQuote, noBackslash, Nat.not_lt.2 printable, ih]
  | letter known tail ih =>
    rw [List.cons_append, List.cons_append, skipString.eq_def]
    simp [known, ih]
  | code hex tail ih =>
    have unknown : simpleEscape? 'u' = none := rfl
    simp only [List.cons_append]
    rw [skipString.eq_def]
    simp [unknown, hex, ih]

theorem exists_of_skipString (skipped : skipString text = .ok ((), rest)) :
    ∃ body, StringBody body ∧ text = body ++ '"' :: rest := by
  fun_induction skipString text with
  | case2 after =>
    obtain rfl : after = rest := by simpa using skipped
    exact ⟨[], .nil, rfl⟩
  | case4 letter after known _ ih =>
    rcases ih skipped with ⟨body, isBody, rfl⟩
    rcases Option.isSome_iff_exists.1 known with ⟨escaped, known⟩
    exact ⟨'\\' :: letter :: body, .letter known isBody, rfl⟩
  | case6 a b c d after code hex _ _ ih =>
    rcases ih skipped with ⟨body, isBody, rfl⟩
    exact ⟨'\\' :: 'u' :: a :: b :: c :: d :: body, .code hex isBody, rfl⟩
  | case10 c after noQuote noBackslash printable ih =>
    rcases ih skipped with ⟨body, isBody, rfl⟩
    exact ⟨c :: body, .plain noQuote noBackslash (Nat.not_lt.1 printable) isBody, rfl⟩
  | _ => simp at skipped

theorem stringBody_of_spells {letters : List Char} (spells : Spells body letters)
    (rest : List Char) : stringBody (body ++ '"' :: rest) = .ok (letters, rest) := by
  have unknown : simpleEscape? 'u' = none := rfl
  induction spells with
  | nil =>
    rw [stringBody.eq_def]
    simp
  | plain noQuote noBackslash printable tail ih =>
    rw [List.cons_append, stringBody_plain noQuote noBackslash printable, ih]
    rfl
  | letter known tail ih =>
    rw [List.cons_append, List.cons_append, stringBody_simpleEscape known, ih]
    rfl
  | @code a b c d code rest letters hex whole tail ih =>
    have noLow : ¬(0xdc00 ≤ code ∧ code ≤ 0xdfff) := by omega
    have noHigh : code < 0xd800 ∨ 0xdbff < code := by omega
    simp only [List.cons_append]
    rw [stringBody.eq_def]
    simp [unknown, hex, noLow, noHigh, ih, prepend]
  | @pair a b c d a' b' c' d' high low rest letters hexHigh isHigh hexLow isLow tail ih =>
    have noLow : ¬(0xdc00 ≤ high ∧ high ≤ 0xdfff) := by omega
    have notWhole : ¬(high < 0xd800 ∨ 0xdbff < high) := by omega
    simp only [List.cons_append]
    rw [stringBody.eq_def]
    simp [unknown, hexHigh, noLow, notWhole, hexLow, isLow, ih, prepend]

theorem exists_of_prepend {c : Char} {read : Except Fault (List Char × List Char)}
    {letters : List Char} (done : prepend c read = .ok (letters, rest)) :
    ∃ others, read = .ok (others, rest) ∧ letters = c :: others := by
  cases read with
  | error fault => simp [prepend] at done
  | ok result =>
    obtain ⟨rfl, rfl⟩ : c :: result.1 = letters ∧ result.2 = rest := by simpa [prepend] using done
    exact ⟨_, rfl, rfl⟩

theorem exists_of_stringBody {letters : List Char} (read : stringBody text = .ok (letters, rest)) :
    ∃ body, Spells body letters ∧ text = body ++ '"' :: rest := by
  fun_induction stringBody text generalizing letters with
  | case2 after =>
    obtain ⟨rfl, rfl⟩ : [] = letters ∧ after = rest := by simpa using read
    exact ⟨[], .nil, rfl⟩
  | case4 letter after escaped known _ ih =>
    rcases exists_of_prepend read with ⟨others, readOthers, rfl⟩
    rcases ih readOthers with ⟨body, spells, rfl⟩
    exact ⟨'\\' :: letter :: body, .letter known spells, rfl⟩
  | case7 a b c d after code hex noLow noHigh _ _ ih =>
    rcases exists_of_prepend read with ⟨others, readOthers, rfl⟩
    rcases ih readOthers with ⟨body, spells, rfl⟩
    exact ⟨'\\' :: 'u' :: a :: b :: c :: d :: body, .code hex (by omega) spells, rfl⟩
  | case11 a b c d high hexHigh noLow isHigh a' b' c' d' after low hexLow isLow _ _ ih =>
    rcases exists_of_prepend read with ⟨others, readOthers, rfl⟩
    rcases ih readOthers with ⟨body, spells, rfl⟩
    exact ⟨'\\' :: 'u' :: a :: b :: c :: d :: '\\' :: 'u' :: a' :: b' :: c' :: d' :: body,
      .pair hexHigh (by omega) hexLow isLow spells, rfl⟩
  | case19 c after noQuote noBackslash printable ih =>
    rcases exists_of_prepend read with ⟨others, readOthers, rfl⟩
    rcases ih readOthers with ⟨body, spells, rfl⟩
    exact ⟨c :: body, .plain noQuote noBackslash (Nat.not_lt.1 printable) spells, rfl⟩
  | _ => simp at read

theorem letters_eq {letters letters' : List Char} (spells : Spells body letters)
    (spells' : Spells body letters') : letters = letters' := by
  have read := stringBody_of_spells spells []
  rw [stringBody_of_spells spells'] at read
  simpa [eq_comm] using read

theorem text_of_spells {value : String} (spells : Spells body value.toList) (rest : List Char) :
    Reader.text (body ++ '"' :: rest) = .ok (value, rest) := by
  simp [Reader.text, stringBody_of_spells spells]

theorem exists_of_text {value : String} (read : Reader.text text = .ok (value, rest)) :
    ∃ body, Spells body value.toList ∧ text = body ++ '"' :: rest := by
  rw [Reader.text] at read
  split at read
  · rename_i letters after readLetters
    obtain ⟨rfl, rfl⟩ : String.ofList letters = value ∧ after = rest := by simpa using read
    rw [String.toList_ofList]
    exact exists_of_stringBody readLetters
  · simp at read

/-- What is read as a string are exactly the strings that stand for whole characters. -/
theorem recognizes_string : Recognizes string StringText where
  reads := by
    rintro _ value ⟨body, rfl, spells⟩ gap rest blank -
    rw [string, List.append_assoc, List.cons_append, skipGap_append blank rfl, List.append_assoc]
    exact text_of_spells spells rest
  read := by
    intro text value rest read
    rcases exists_gap text with ⟨gap, blank, whole⟩
    rw [string] at read
    split at read
    · simp at read
    · rename_i after found
      rcases exists_of_text read with ⟨body, spells, rfl⟩
      exact ⟨gap, _, blank, ⟨body, rfl, spells⟩, by rw [whole, found]; simp⟩
    · simp at read

/-! ### Runs of digits -/

/-- Whether a text does not go on with a digit. -/
def NoDigit (rest : List Char) : Prop := ∀ c ∈ rest.head?, isDigit c = false

theorem EndsNumber.noDigit (ends : EndsNumber rest) : NoDigit rest :=
  fun c isHead => (ends c isHead).1

theorem ne_of_isDigit {c other : Char} (digit : isDigit c = true)
    (noDigit : isDigit other = false) : c ≠ other := by
  rintro rfl
  simp [digit] at noDigit

theorem dropWhile_digits (all : ∀ c ∈ digits, isDigit c = true) (ends : NoDigit rest) :
    (digits ++ rest).dropWhile isDigit = rest := by
  rw [List.dropWhile_append_of_pos all]
  cases rest with
  | nil => rfl
  | cons c rest => simp [ends c rfl]

theorem takeWhile_digits (all : ∀ c ∈ digits, isDigit c = true) (ends : NoDigit rest) :
    (digits ++ rest).takeWhile isDigit = digits := by
  rw [List.takeWhile_append_of_pos all]
  cases rest with
  | nil => simp
  | cons c rest => simp [ends c rfl]

theorem isDigit_of_mem_takeWhile {c : Char} (member : c ∈ text.takeWhile isDigit) :
    isDigit c = true := List.mem_takeWhile_imp member

/-! ### Numbers -/

/-- What is left of an exponent without its sign. -/
def dropSign : List Char → List Char
  | '+' :: rest => rest
  | '-' :: rest => rest
  | rest => rest

theorem exists_dropSign (text : List Char) :
    ∃ sign, IsSign sign ∧ text = sign ++ dropSign text := by
  unfold dropSign
  split
  · exact ⟨['+'], by simp [IsSign], rfl⟩
  · exact ⟨['-'], by simp [IsSign], rfl⟩
  · exact ⟨[], by simp [IsSign], rfl⟩

theorem dropSign_append {sign : List Char} {first : Char} (isSign : IsSign sign)
    (digit : isDigit first = true) (rest : List Char) :
    dropSign (sign ++ first :: rest) = first :: rest := by
  have noPlus : first ≠ '+' := ne_of_isDigit digit rfl
  have noMinus : first ≠ '-' := ne_of_isDigit digit rfl
  rcases isSign with rfl | rfl | rfl
  · rw [List.nil_append, dropSign.eq_def]
    split <;> simp_all
  · rfl
  · rfl

theorem skipExponent_eq (text : List Char) :
    skipExponent text =
      match dropSign text with
      | [] => .error (faultHere .invalidNumber [])
      | c :: after =>
        if isDigit c then .ok ((), after.dropWhile isDigit)
        else .error (faultNext .invalidNumber (c :: after)) := rfl

theorem skipExponent_append {sign : List Char} (isSign : IsSign sign) (isRun : Digits digits)
    (ends : NoDigit rest) : skipExponent (sign ++ (digits ++ rest)) = .ok ((), rest) := by
  rcases isRun.exists_cons with ⟨first, more, rfl, digit, all⟩
  rw [skipExponent_eq, List.cons_append, dropSign_append isSign digit]
  simp [digit, dropWhile_digits all ends]

theorem exists_of_skipExponent (skipped : skipExponent text = .ok ((), rest)) :
    ∃ sign digits, IsSign sign ∧ Digits digits ∧ text = sign ++ (digits ++ rest) := by
  rcases exists_dropSign text with ⟨sign, isSign, split⟩
  rw [skipExponent_eq] at skipped
  split at skipped
  · simp at skipped
  · rename_i c after unsigned
    split at skipped
    · rename_i digit
      obtain rfl : after.dropWhile isDigit = rest := by simpa using skipped
      refine ⟨sign, c :: after.takeWhile isDigit, isSign,
        digits_cons digit fun _ => isDigit_of_mem_takeWhile, ?_⟩
      rw [List.cons_append, List.takeWhile_append_dropWhile, ← unsigned]
      exact split
    · simp at skipped

/-- Passes over an exponent if there is one. -/
def skipPower : List Char → Except Fault (Unit × List Char)
  | 'e' :: rest => skipExponent rest
  | 'E' :: rest => skipExponent rest
  | rest => .ok ((), rest)

theorem skipPower_of_ends (ends : EndsNumber rest) : skipPower rest = .ok ((), rest) := by
  unfold skipPower
  split
  · exact absurd rfl (ends 'e' rfl).2.2.1
  · exact absurd rfl (ends 'E' rfl).2.2.2
  · rfl

theorem skipPower_append {exponent : List Char} (isExponent : ExponentPart exponent)
    (ends : EndsNumber rest) : skipPower (exponent ++ rest) = .ok ((), rest) := by
  cases isExponent with
  | none => exact skipPower_of_ends ends
  | power isLetter isSign digits =>
    rw [List.cons_append, List.append_assoc]
    rcases isLetter with rfl | rfl <;> exact skipExponent_append isSign digits ends.noDigit

theorem exists_of_skipPower (skipped : skipPower text = .ok ((), rest)) :
    ∃ exponent, ExponentPart exponent ∧ text = exponent ++ rest := by
  have power : ∀ {letter after}, letter = 'e' ∨ letter = 'E' → skipExponent after = .ok ((), rest) →
      ∃ exponent, ExponentPart exponent ∧ letter :: after = exponent ++ rest := by
    intro letter after isLetter skipped
    rcases exists_of_skipExponent skipped with ⟨sign, digits, isSign, isRun, rfl⟩
    exact ⟨_, .power isLetter isSign isRun, by simp⟩
  unfold skipPower at skipped
  split at skipped
  · exact power (.inl rfl) skipped
  · exact power (.inr rfl) skipped
  · obtain rfl : _ = rest := by simpa using skipped
    exact ⟨[], .none, rfl⟩

theorem skipAfterWhole_eq (text : List Char) :
    skipAfterWhole text =
      match text with
      | '.' :: rest =>
        if (rest.takeWhile isDigit).isEmpty then
          .error (faultNext .invalidNumber (rest.dropWhile isDigit))
        else skipPower (rest.dropWhile isDigit)
      | rest => skipPower rest := by
  unfold skipAfterWhole skipPower
  split
  · rfl
  · rfl
  · rfl
  · simp_all

theorem noDigit_exponent {exponent : List Char} (isExponent : ExponentPart exponent)
    (ends : EndsNumber rest) : NoDigit (exponent ++ rest) := by
  cases isExponent with
  | none => exact ends.noDigit
  | power isLetter isSign digits =>
    intro c isHead
    obtain rfl : _ = c := by simpa using isHead
    rcases isLetter with rfl | rfl <;> rfl

theorem skipAfterWhole_append {tail : List Char} (isTail : NumberTail tail)
    (ends : EndsNumber rest) : skipAfterWhole (tail ++ rest) = .ok ((), rest) := by
  cases isTail with
  | @parts fraction exponent isFraction isExponent =>
    have passed := skipPower_append isExponent ends
    rw [List.append_assoc, skipAfterWhole_eq]
    cases isFraction with
    | none =>
      split
      · rename_i after begins
        -- No exponent begins with a point, and neither does what follows a number.
        exfalso
        cases isExponent with
        | none =>
          obtain rfl : rest = '.' :: after := begins
          exact (ends '.' rfl).2.1 rfl
        | power isLetter isSign digits => rcases isLetter with rfl | rfl <;> simp at begins
      · exact passed
    | places digits =>
      have none := noDigit_exponent isExponent ends
      simp [takeWhile_digits digits.all none, dropWhile_digits digits.all none, digits.nonempty,
        passed]

theorem exists_of_skipAfterWhole (skipped : skipAfterWhole text = .ok ((), rest)) :
    ∃ tail, NumberTail tail ∧ text = tail ++ rest := by
  rw [skipAfterWhole_eq] at skipped
  split at skipped
  · rename_i after
    split at skipped
    · simp at skipped
    · rename_i some
      rcases exists_of_skipPower skipped with ⟨exponent, isExponent, split⟩
      have digits : Digits (after.takeWhile isDigit) :=
        ⟨by simpa using some, fun _ => isDigit_of_mem_takeWhile⟩
      refine ⟨_, .parts (.places digits) isExponent, ?_⟩
      rw [List.append_assoc, List.cons_append, ← split, List.takeWhile_append_dropWhile]
  · rcases exists_of_skipPower skipped with ⟨exponent, isExponent, rfl⟩
    exact ⟨_, .parts .none isExponent, rfl⟩

theorem noDigit_tail {tail : List Char} (isTail : NumberTail tail) (ends : EndsNumber rest) :
    NoDigit (tail ++ rest) := by
  cases isTail with
  | parts isFraction isExponent =>
    rw [List.append_assoc]
    cases isFraction with
    | none =>
      rw [List.nil_append]
      exact noDigit_exponent isExponent ends
    | places digits =>
      intro c isHead
      obtain rfl : '.' = c := by simpa using isHead
      rfl

theorem skipNumber_zero (noDigit : NoDigit rest) :
    skipNumber ('0' :: rest) = skipAfterWhole rest := by
  cases rest with
  | nil => rfl
  | cons c after => simp [skipNumber, noDigit c rfl]

theorem skipNumber_append (isNumber : UnsignedNumber text) (ends : EndsNumber rest) :
    skipNumber (text ++ rest) = .ok ((), rest) := by
  cases isNumber with
  | parts isWhole isTail =>
    have passed := skipAfterWhole_append isTail ends
    have none := noDigit_tail isTail ends
    rw [List.append_assoc]
    cases isWhole with
    | zero => rwa [List.singleton_append, skipNumber_zero none]
    | digits digit notZero all =>
      rw [List.cons_append, skipNumber.eq_def]
      simp [digit, dropWhile_digits all none, passed]

theorem exists_of_skipNumber (skipped : skipNumber text = .ok ((), rest)) :
    ∃ number, UnsignedNumber number ∧ text = number ++ rest := by
  unfold skipNumber at skipped
  split at skipped
  · simp at skipped
  · split at skipped
    · obtain rfl : [] = rest := by simpa using skipped
      exact ⟨_, .parts .zero (.parts .none .none), rfl⟩
    · split at skipped
      · simp at skipped
      · rcases exists_of_skipAfterWhole skipped with ⟨tail, isTail, split⟩
        exact ⟨_, .parts .zero isTail, by simp [split]⟩
  · rename_i first after notZero
    split at skipped
    · rename_i digit
      rcases exists_of_skipAfterWhole skipped with ⟨tail, isTail, split⟩
      have isWhole : WholePart (first :: after.takeWhile isDigit) :=
        .digits digit notZero fun _ => isDigit_of_mem_takeWhile
      refine ⟨_, .parts isWhole isTail, ?_⟩
      rw [List.append_assoc, ← split, List.cons_append, List.takeWhile_append_dropWhile]
    · simp at skipped

/-! ### Whole texts -/

theorem isBlank_of_isGap {c : Char} (gap : isGap c = true) : Text.isBlank c = true := by
  simp only [isGap, Bool.or_eq_true, decide_eq_true_eq] at gap
  rcases gap with ((rfl | rfl) | rfl) | rfl <;> decide

theorem Recognizes.unique {α : Type} {reader : Reader α} {form : List Char → α → Prop}
    (recognizes : Recognizes reader form) {text : List Char} {value value' : α}
    (isForm : form text value) (isForm' : form text value') : value = value' := by
  have read := recognizes.reads isForm [] [] gap_nil endsNumber_nil
  rw [recognizes.reads isForm' [] [] gap_nil endsNumber_nil] at read
  simpa [eq_comm] using read

/-- White space at the ends apart, a whole text is read exactly if it is of the form. -/
theorem readText_trim_iff {α : Type} {reader : Reader α} {form : List Char → α → Prop}
    (recognizes : Recognizes reader form) {text : String} {value : α} :
    readText reader (Text.trim text) = .ok value ↔ form (Text.trim text).toList value := by
  constructor
  · intro read
    unfold readText at read
    split at read
    · rename_i value' all
      obtain rfl : value' = value := by simpa using read
      rcases bind_eq_ok_iff.1 all with ⟨⟨value, rest⟩, taken, ends⟩
      simp only at ends
      split at ends
      · rename_i nothing
        obtain rfl : value = value' := by simpa [pure, Except.pure] using ends
        rcases recognizes.read taken with ⟨gap, written, blank, isForm, whole⟩
        have blankRest : Gap rest := by
          rcases exists_gap rest with ⟨all, blankAll, split⟩
          rwa [split, nothing, List.append_nil]
        have noGap : gap = [] := by
          cases gap with
          | nil => rfl
          | cons c gap =>
            have first : Text.isBlank c = false := Text.head_trim text (by rw [whole]; rfl)
            have blankFirst := isBlank_of_isGap (blank c List.mem_cons_self)
            simp [first] at blankFirst
        have noRest : rest = [] := by
          rcases List.eq_nil_or_concat rest with none | ⟨others, c, rfl⟩
          · exact none
          · have last : Text.isBlank c = false := Text.getLast_trim text (by rw [whole]; simp)
            have blankLast := isBlank_of_isGap (blankRest c (by simp))
            simp [last] at blankLast
        rwa [whole, noGap, noRest, List.nil_append, List.append_nil]
      · simp at ends
    · simp at read
  · intro isForm
    have read := (recognizes.reads isForm).readText
    rwa [String.ofList_toList] at read

end Reader

end NodeLocale.Json
