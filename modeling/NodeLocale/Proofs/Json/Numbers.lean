import Mathlib.Algebra.Group.Nat.Defs
import NodeLocale.Proofs.Json.Skipping

/-!
# Numbers

A number is read part by part, and each part stops where it cannot go on, so what is read as a
number is a number of the grammar, and the same number is read wherever else its text stands. Whole
numbers below two to the 64 are read exactly.
-/

namespace NodeLocale.Json

open Reader

/-- Whether a text is a whole number in decimal digits. -/
structure Numeral (text : List Char) (value : Nat) : Prop where
  isWhole : WholePart text
  value_eq : Nat.ofDigitChars 10 text 0 = value

namespace Reader

variable {text rest digits : List Char} {read : JsonNumber} {positive : Bool}

/-! ### Digits -/

theorem ofDigitChars_cons_eq (value : Nat) (c : Char) (digits : List Char) :
    Nat.ofDigitChars 10 (c :: digits) value =
      Nat.ofDigitChars 10 digits (value * 10 + digitValue c) := by
  rw [Nat.ofDigitChars_cons, digitValue, Nat.mul_comm]

theorem le_ofDigitChars (value : Nat) (digits : List Char) :
    value ≤ Nat.ofDigitChars 10 digits value := by
  induction digits generalizing value with
  | nil => simp
  | cons c digits ih =>
    rw [ofDigitChars_cons_eq]
    have grown := ih (value * 10 + digitValue c)
    omega

theorem appendDigits_nil (value : Nat) : appendDigits value [] = (value, []) := rfl

theorem appendDigits_cons (value : Nat) (c : Char) (digits : List Char) :
    appendDigits value (c :: digits) =
      if value * 10 + digitValue c < 2 ^ 64 then
        appendDigits (value * 10 + digitValue c) digits
      else (value, c :: digits) := rfl

theorem appendDigits_of_lt {value : Nat} (small : Nat.ofDigitChars 10 digits value < 2 ^ 64) :
    appendDigits value digits = (Nat.ofDigitChars 10 digits value, []) := by
  induction digits generalizing value with
  | nil => rw [appendDigits_nil, Nat.ofDigitChars_nil]
  | cons c digits ih =>
    rw [ofDigitChars_cons_eq] at small ⊢
    have fits := Nat.lt_of_le_of_lt (le_ofDigitChars _ digits) small
    rw [appendDigits_cons, if_pos fits, ih small]

theorem ofDigitChars_of_appendDigits {value result : Nat} (small : value < 2 ^ 64)
    (appended : appendDigits value digits = (result, [])) :
    Nat.ofDigitChars 10 digits value = result ∧ result < 2 ^ 64 := by
  induction digits generalizing value with
  | nil =>
    obtain rfl : value = result := by simpa [appendDigits_nil] using appended
    exact ⟨Nat.ofDigitChars_nil, small⟩
  | cons c digits ih =>
    rw [appendDigits_cons] at appended
    split at appended
    · rename_i fits
      rw [ofDigitChars_cons_eq]
      exact ih fits appended
    · simp at appended

/-! ### Exponents -/

/-- Whether a reader takes a text as a number, whatever follows it. -/
def Extends (reader : Reader JsonNumber) (text : List Char) (read : JsonNumber) : Prop :=
  ∀ rest, EndsNumber rest → reader (text ++ rest) = .ok (read, rest)

/-- Whether a number was read as a double. -/
def IsReal (read : JsonNumber) : Prop := ∃ value, read = .real value

theorem exists_of_realNumber {significand : Nat} {exponent : Int}
    (done : realNumber positive significand exponent text = .ok (read, rest)) :
    text = rest ∧ IsReal read ∧
      ∀ rest, realNumber positive significand exponent rest = .ok (read, rest) := by
  unfold realNumber at done ⊢
  cases scaled : scale 8 (UInt64.ofNat significand).toFloat exponent with
  | none => simp [scaled] at done
  | some value =>
    simp only [scaled, Except.ok.injEq, Prod.mk.injEq, and_true] at done ⊢
    exact ⟨done.2, ⟨_, done.1.symm⟩, fun _ => done.1⟩

theorem exponentDigits_cons (value : Nat) (c : Char) (rest : List Char) :
    exponentDigits value (c :: rest) =
      if isDigit c then
        if value * 10 + digitValue c < 2 ^ 31 then exponentDigits (value * 10 + digitValue c) rest
        else .inr rest
      else .inl (value, c :: rest) := rfl

/-- How many digits of an exponent count does not depend on what follows them. -/
theorem exponentDigits_append (all : ∀ c ∈ digits, isDigit c = true) (value : Nat) :
    (∃ result, ∀ rest, NoDigit rest → exponentDigits value (digits ++ rest) = .inl (result, rest)) ∨
    ∃ left, (∀ c ∈ left, isDigit c = true) ∧
      ∀ rest, NoDigit rest → exponentDigits value (digits ++ rest) = .inr (left ++ rest) := by
  induction digits generalizing value with
  | nil =>
    refine .inl ⟨value, ?_⟩
    intro rest ends
    cases rest with
    | nil => rfl
    | cons c rest => simp [exponentDigits_cons, ends c rfl]
  | cons c digits ih =>
    simp only [List.forall_mem_cons] at all
    simp only [List.cons_append, exponentDigits_cons, all.1, if_true]
    split
    · exact ih all.2 _
    · exact .inr ⟨digits, all.2, fun rest _ => rfl⟩

/-- Whether an exponent has no minus sign. -/
def isRaised (text : List Char) : Bool := text.head? != some '-'

/-- Finishes a number behind the first digit of its exponent. -/
def powered (positive raised : Bool) (significand : Nat) (exponent : Int) (first : Char) :
    Reader JsonNumber := fun rest =>
  match exponentDigits (digitValue first) rest with
  | .inl (value, rest) =>
    realNumber positive significand (if raised then exponent + value else exponent - value) rest
  | .inr rest =>
    if significand != 0 && raised then .error (faultHere .numberOutOfRange rest)
    else .ok (.real (.ofFloat (if positive then 0.0 else -0.0)), rest.dropWhile isDigit)

theorem exponentPart_eq (significand : Nat) (exponent : Int) (text : List Char) :
    exponentPart positive significand exponent text =
      match dropSign text with
      | [] => .error (faultHere .eofInValue [])
      | c :: after =>
        if !isDigit c then .error (faultNext .invalidNumber (c :: after))
        else powered positive (isRaised text) significand exponent c after := by
  cases text with
  | nil => rfl
  | cons c text =>
    by_cases plus : c = '+'
    · subst c
      rfl
    · by_cases minus : c = '-'
      · subst c
        rfl
      · have unsigned : dropSign (c :: text) = c :: text := by simp [dropSign, plus, minus]
        have raised : isRaised (c :: text) = true := by simpa [isRaised] using minus
        rw [unsigned, raised]
        unfold exponentPart
        split
        rename_i up behind split
        obtain ⟨rfl, rfl⟩ : true = up ∧ c :: text = behind := by simpa [plus, minus] using split
        rfl

theorem noDigit_dropWhile (text : List Char) : NoDigit (text.dropWhile isDigit) := by
  intro c isHead
  have stopped := List.head?_dropWhile_not isDigit text
  rw [Option.mem_def.1 isHead] at stopped
  simpa using stopped

theorem exists_of_powered {raised : Bool} {significand : Nat} {exponent : Int} {first : Char}
    (all : ∀ c ∈ digits, isDigit c = true) (ends : NoDigit text)
    (done :
      powered positive raised significand exponent first (digits ++ text) = .ok (read, rest)) :
    text = rest ∧ IsReal read ∧ ∀ rest, NoDigit rest →
      powered positive raised significand exponent first (digits ++ rest) = .ok (read, rest) := by
  unfold powered at done ⊢
  rcases exponentDigits_append all (digitValue first) with ⟨value, kept⟩ | ⟨left, allLeft, kept⟩
  · rw [kept text ends] at done
    rcases exists_of_realNumber done with ⟨same, real, extends_⟩
    refine ⟨same, real, ?_⟩
    intro rest endsRest
    rw [kept rest endsRest]
    exact extends_ rest
  · rw [kept text ends] at done
    simp only at done
    split at done
    · simp at done
    · rename_i small
      rw [dropWhile_digits allLeft ends] at done
      simp only [Except.ok.injEq, Prod.mk.injEq] at done
      refine ⟨done.2, ⟨_, done.1.symm⟩, ?_⟩
      intro rest endsRest
      rw [kept rest endsRest]
      simp only
      rw [if_neg small, dropWhile_digits allLeft endsRest, done.1]

theorem exists_of_exponentPart {significand : Nat} {exponent : Int}
    (done : exponentPart positive significand exponent text = .ok (read, rest)) :
    ∃ sign digits, IsSign sign ∧ Digits digits ∧ text = sign ++ (digits ++ rest) ∧ IsReal read ∧
      Extends (exponentPart positive significand exponent) (sign ++ digits) read := by
  rcases exists_dropSign text with ⟨sign, isSign, whole⟩
  rw [exponentPart_eq] at done
  split at done
  · simp at done
  · rename_i c after unsigned
    rw [unsigned] at whole
    split at done
    · simp at done
    · rename_i noFault
      have digit : isDigit c = true := by simpa using noFault
      have all : ∀ c ∈ after.takeWhile isDigit, isDigit c = true := fun _ =>
        isDigit_of_mem_takeWhile
      have split : after = after.takeWhile isDigit ++ after.dropWhile isDigit :=
        List.takeWhile_append_dropWhile.symm
      rw [split] at done
      rcases exists_of_powered all (noDigit_dropWhile after) done with ⟨same, real, extends_⟩
      refine ⟨sign, c :: after.takeWhile isDigit, isSign, digits_cons digit all, ?_, real, ?_⟩
      · rw [whole, ← same, List.cons_append, ← split]
      · intro other ends
        have raised :
            isRaised (sign ++ c :: (after.takeWhile isDigit ++ other)) = isRaised text := by
          simp [isRaised, whole]
        rw [List.append_assoc, List.cons_append, exponentPart_eq, raised,
          dropSign_append isSign digit]
        simpa [digit] using extends_ other ends.noDigit

/-- Finishes a number behind its places, with an exponent if there is one. -/
def powerPart (positive : Bool) (significand : Nat) (exponent : Int) : Reader JsonNumber
  | 'e' :: rest => exponentPart positive significand exponent rest
  | 'E' :: rest => exponentPart positive significand exponent rest
  | rest => realNumber positive significand exponent rest

theorem powerPart_of_ends {significand : Nat} {exponent : Int} (ends : EndsNumber rest) :
    powerPart positive significand exponent rest =
      realNumber positive significand exponent rest := by
  unfold powerPart
  split
  · exact absurd rfl (ends 'e' rfl).2.2.1
  · exact absurd rfl (ends 'E' rfl).2.2.2
  · rfl

theorem exists_of_powerPart {significand : Nat} {exponent : Int}
    (done : powerPart positive significand exponent text = .ok (read, rest)) :
    ∃ exponentText, ExponentPart exponentText ∧ text = exponentText ++ rest ∧ IsReal read ∧
      Extends (powerPart positive significand exponent) exponentText read := by
  unfold powerPart at done
  split at done
  · rcases exists_of_exponentPart done with ⟨sign, digits, isSign, isRun, rfl, real, extends_⟩
    exact ⟨_, .power (.inl rfl) isSign isRun, by simp, real, extends_⟩
  · rcases exists_of_exponentPart done with ⟨sign, digits, isSign, isRun, rfl, real, extends_⟩
    exact ⟨_, .power (.inr rfl) isSign isRun, by simp, real, extends_⟩
  · rcases exists_of_realNumber done with ⟨same, real, extends_⟩
    refine ⟨[], .none, same, real, ?_⟩
    intro other ends
    rw [List.nil_append, powerPart_of_ends ends]
    exact extends_ other

/-! ### Fractions -/

theorem fractionPart_eq (significand : Nat) (exponent : Int) (text : List Char) :
    fractionPart positive significand exponent text =
      if (text.takeWhile isDigit).isEmpty then
        match text.dropWhile isDigit with
        | [] => .error (faultHere .eofInValue [])
        | c :: after => .error (faultNext .invalidNumber (c :: after))
      else
        powerPart positive (appendDigits significand (text.takeWhile isDigit)).1
          (exponent - (((text.takeWhile isDigit).length -
            (appendDigits significand (text.takeWhile isDigit)).2.length : Nat) : Int))
          (text.dropWhile isDigit) := by
  unfold fractionPart powerPart
  rfl

theorem exists_of_fractionPart {significand : Nat} {exponent : Int}
    (done : fractionPart positive significand exponent text = .ok (read, rest)) :
    ∃ places exponentText, Digits places ∧ ExponentPart exponentText ∧
      text = places ++ (exponentText ++ rest) ∧ IsReal read ∧
      Extends (fractionPart positive significand exponent) (places ++ exponentText) read := by
  rw [fractionPart_eq] at done
  split at done
  · split at done <;> simp at done
  · rename_i some
    have isRun : Digits (text.takeWhile isDigit) :=
      ⟨by simpa using some, fun _ => isDigit_of_mem_takeWhile⟩
    rcases exists_of_powerPart done with ⟨exponentText, isExponent, split, real, extends_⟩
    refine ⟨_, exponentText, isRun, isExponent, ?_, real, ?_⟩
    · rw [← split, List.takeWhile_append_dropWhile]
    · intro other ends
      have none := noDigit_exponent isExponent ends
      rw [List.append_assoc, fractionPart_eq, takeWhile_digits isRun.all none,
        dropWhile_digits isRun.all none, if_neg some]
      exact extends_ other ends

/-! ### Whole parts -/

/-- What has a whole part is read as its digits say, and then what comes behind them. -/
theorem unsignedNumber_append {whole : List Char} (isWhole : WholePart whole)
    (ends : NoDigit rest) :
    unsignedNumber positive (whole ++ rest) =
      afterWhole positive (appendDigits 0 whole).1 (appendDigits 0 whole).2.length rest := by
  cases isWhole with
  | zero =>
    cases rest with
    | nil => rfl
    | cons c after =>
      have noDigit : isDigit c = false := ends c rfl
      simp [unsignedNumber, noDigit, appendDigits_cons, appendDigits_nil, digitValue]
  | digits digit notZero more =>
    rw [List.cons_append, unsignedNumber.eq_def]
    simp [digit, takeWhile_digits more ends, dropWhile_digits more ends]

theorem exists_of_unsignedNumber (done : unsignedNumber positive text = .ok (read, rest)) :
    ∃ whole after, WholePart whole ∧ NoDigit after ∧ text = whole ++ after ∧
      afterWhole positive (appendDigits 0 whole).1 (appendDigits 0 whole).2.length after =
        .ok (read, rest) := by
  have split : ∃ whole after, WholePart whole ∧ NoDigit after ∧ text = whole ++ after := by
    unfold unsignedNumber at done
    split at done
    · simp at done
    · split at done
      · exact ⟨['0'], [], .zero, by simp [NoDigit], rfl⟩
      · rename_i c after
        split at done
        · simp at done
        · rename_i noDigit
          refine ⟨['0'], c :: after, .zero, ?_, rfl⟩
          intro head isHead
          obtain rfl : c = head := by simpa using isHead
          simpa using noDigit
    · rename_i c after notZero
      split at done
      · rename_i digit
        exact ⟨c :: after.takeWhile isDigit, after.dropWhile isDigit,
          .digits digit notZero fun _ => isDigit_of_mem_takeWhile, noDigit_dropWhile after,
          by rw [List.cons_append, List.takeWhile_append_dropWhile]⟩
      · simp at done
  rcases split with ⟨whole, after, isWhole, ends, rfl⟩
  rw [unsignedNumber_append isWhole ends] at done
  exact ⟨whole, after, isWhole, ends, rfl, done⟩

/-! ### Numbers -/

/-- The number of a whole part of which all digits fit. -/
def wholeValue (positive : Bool) (significand : Nat) : JsonNumber :=
  if positive then .integer significand
  else if significand = 0 || 0x8000000000000000 < significand then
    .real (.ofFloat (-(UInt64.ofNat significand).toFloat))
  else .integer (-(significand : Int))

/-- Finishes a number that has neither places nor an exponent. -/
def wholeNumber (positive : Bool) (significand left : Nat) : Reader JsonNumber := fun rest =>
  if left = 0 then .ok (wholeValue positive significand, rest)
  else realNumber positive significand left rest

theorem afterWhole_eq (significand left : Nat) (text : List Char) :
    afterWhole positive significand left text =
      match text with
      | '.' :: rest => fractionPart positive significand left rest
      | 'e' :: rest => exponentPart positive significand left rest
      | 'E' :: rest => exponentPart positive significand left rest
      | rest => wholeNumber positive significand left rest := by
  unfold afterWhole
  split
  · rfl
  · rfl
  · rfl
  · unfold wholeNumber wholeValue
    split_ifs <;> simp_all

theorem afterWhole_of_ends {significand left : Nat} (ends : EndsNumber rest) :
    afterWhole positive significand left rest = wholeNumber positive significand left rest := by
  rw [afterWhole_eq]
  split
  · exact absurd rfl (ends '.' rfl).2.1
  · exact absurd rfl (ends 'e' rfl).2.2.1
  · exact absurd rfl (ends 'E' rfl).2.2.2
  · rfl

theorem exists_of_wholeNumber {significand left : Nat}
    (done : wholeNumber positive significand left text = .ok (read, rest)) :
    text = rest ∧ ∀ rest, wholeNumber positive significand left rest = .ok (read, rest) := by
  unfold wholeNumber at done ⊢
  split at done
  · rename_i all
    simpa [all, and_comm] using done
  · rename_i some
    rcases exists_of_realNumber done with ⟨same, -, extends_⟩
    refine ⟨same, ?_⟩
    intro other
    rw [if_neg some]
    exact extends_ other

theorem exists_of_afterWhole {significand left : Nat}
    (done : afterWhole positive significand left text = .ok (read, rest)) :
    ∃ tail, NumberTail tail ∧ text = tail ++ rest ∧
      Extends (afterWhole positive significand left) tail read ∧ (IsReal read ∨ tail = []) := by
  rw [afterWhole_eq] at done
  split at done
  · rcases exists_of_fractionPart done with
      ⟨places, exponent, isRun, isExponent, rfl, real, extends_⟩
    exact ⟨_, .parts (.places isRun) isExponent, by simp, extends_, .inl real⟩
  · rcases exists_of_exponentPart done with ⟨sign, digits, isSign, isRun, rfl, real, extends_⟩
    exact ⟨_, .parts .none (.power (.inl rfl) isSign isRun), by simp, extends_,
      .inl real⟩
  · rcases exists_of_exponentPart done with ⟨sign, digits, isSign, isRun, rfl, real, extends_⟩
    exact ⟨_, .parts .none (.power (.inr rfl) isSign isRun), by simp, extends_,
      .inl real⟩
  · rcases exists_of_wholeNumber done with ⟨same, extends_⟩
    refine ⟨[], .parts .none .none, same, ?_, .inr rfl⟩
    intro other ends
    rw [List.nil_append, afterWhole_of_ends ends]
    exact extends_ other

theorem number_cons {c : Char} (noMinus : c ≠ '-') (rest : List Char) :
    number (c :: rest) = unsignedNumber true (c :: rest) := by
  simp [number, noMinus]

/-- What is read as a number is one, and it is read wherever it stands. -/
theorem exists_of_number (done : number text = .ok (read, rest)) :
    ∃ written, NumberText written ∧ text = written ++ rest ∧ Extends number written read := by
  have unsigned : ∀ {positive : Bool} {text : List Char},
      unsignedNumber positive text = .ok (read, rest) →
      ∃ written, UnsignedNumber written ∧ text = written ++ rest ∧
        Extends (unsignedNumber positive) written read := by
    intro positive text done
    rcases exists_of_unsignedNumber done with ⟨whole, after, isWhole, -, rfl, finish⟩
    rcases exists_of_afterWhole finish with ⟨tail, isTail, rfl, extends_, -⟩
    refine ⟨whole ++ tail, .parts isWhole isTail, by simp, ?_⟩
    intro other ends
    rw [List.append_assoc, unsignedNumber_append isWhole (noDigit_tail isTail ends)]
    exact extends_ other ends
  unfold number at done
  split at done
  · rcases unsigned done with ⟨written, isNumber, rfl, extends_⟩
    exact ⟨'-' :: written, .negative isNumber, rfl, extends_⟩
  · rcases unsigned done with ⟨written, isNumber, rfl, extends_⟩
    refine ⟨written, .unsigned isNumber, rfl, ?_⟩
    intro other ends
    rcases isNumber.exists_cons with ⟨c, more, rfl, digit⟩
    rw [List.cons_append, number_cons (ne_of_isDigit digit rfl)]
    exact extends_ other ends

/-! ### Whole numbers -/

theorem afterWhole_of_numeral {whole : List Char} {value : Nat} (numeral : Numeral whole value)
    (small : value < 2 ^ 64) (ends : EndsNumber rest) :
    unsignedNumber positive (whole ++ rest) = .ok (wholeValue positive value, rest) := by
  have appended : appendDigits 0 whole = (value, []) := by
    rw [← numeral.value_eq] at small ⊢
    exact appendDigits_of_lt small
  rw [unsignedNumber_append numeral.isWhole ends.noDigit, appended, afterWhole_of_ends ends]
  rfl

theorem number_of_numeral {whole : List Char} {value : Nat} (numeral : Numeral whole value)
    (small : value < 2 ^ 64) (ends : EndsNumber rest) :
    number (whole ++ rest) = .ok (.integer value, rest) := by
  have read : unsignedNumber true (whole ++ rest) = .ok (.integer value, rest) :=
    afterWhole_of_numeral numeral small ends
  rcases numeral.isWhole.exists_cons with ⟨c, more, rfl, digit⟩
  rw [List.cons_append] at read ⊢
  rwa [number_cons (ne_of_isDigit digit rfl)]

theorem number_of_negative {whole : List Char} {value : Nat} (numeral : Numeral whole value)
    (positive : 0 < value) (small : value ≤ 2 ^ 63) (ends : EndsNumber rest) :
    number ('-' :: (whole ++ rest)) = .ok (.integer (-(value : Int)), rest) := by
  have kept : wholeValue false value = .integer (-(value : Int)) := by
    simp [wholeValue, Nat.ne_of_gt positive]
    omega
  rw [number, afterWhole_of_numeral numeral (by omega) ends, kept]

/-- Only a whole number is read as an integer. -/
theorem exists_numeral {value : Int}
    (done : unsignedNumber positive text = .ok (.integer value, rest)) :
    ∃ whole magnitude, Numeral whole magnitude ∧ magnitude < 2 ^ 64 ∧
      wholeValue positive magnitude = .integer value ∧ text = whole ++ rest := by
  rcases exists_of_unsignedNumber done with ⟨whole, after, isWhole, -, rfl, finish⟩
  rcases exists_of_afterWhole finish with ⟨tail, -, rfl, extends_, ⟨other, isReal⟩ | rfl⟩
  · simp at isReal
  · have last := extends_ [] endsNumber_nil
    rw [List.append_nil, afterWhole_of_ends endsNumber_nil, wholeNumber] at last
    split at last
    · rename_i all
      have appended : appendDigits 0 whole = ((appendDigits 0 whole).1, []) := by
        rw [← List.length_eq_zero_iff.1 all]
      rcases ofDigitChars_of_appendDigits (by decide) appended with ⟨isValue, small⟩
      exact ⟨whole, _, ⟨isWhole, isValue⟩, small, by simpa using last, rfl⟩
    · rcases exists_of_realNumber last with ⟨-, ⟨other, isReal⟩, -⟩
      simp at isReal

theorem exists_of_number_natural {value : Int} (natural : 0 ≤ value)
    (done : number text = .ok (.integer value, rest)) :
    ∃ whole, Numeral whole value.toNat ∧ value.toNat < 2 ^ 64 ∧ text = whole ++ rest := by
  unfold number at done
  split at done
  · rcases exists_numeral done with ⟨whole, magnitude, -, -, isValue, rfl⟩
    simp only [wholeValue, Bool.false_eq_true, if_false] at isValue
    split at isValue
    · simp at isValue
    · rename_i inRange
      obtain rfl : -(magnitude : Int) = value := by simpa using isValue
      simp at inRange
      omega
  · rcases exists_numeral done with ⟨whole, magnitude, numeral, small, isValue, rfl⟩
    obtain rfl : (magnitude : Int) = value := by simpa [wholeValue] using isValue
    exact ⟨whole, by simpa using numeral, by simpa using small, rfl⟩

/-- What is read as a number that is not negative are the whole numbers below two to the 64. -/
theorem recognizes_unsigned (type : String) :
    Recognizes (unsigned type) fun text value => Numeral text value ∧ value < 2 ^ 64 where
  reads := by
    rintro text value ⟨numeral, small⟩ gap rest blank ends
    have read := number_of_numeral numeral small ends
    have natural : ¬(value : Int) < 0 := by omega
    rcases numeral.isWhole.exists_cons with ⟨c, more, rfl, digit⟩
    rw [List.cons_append] at read
    rw [unsigned, numberAs, List.append_assoc, List.cons_append,
      skipGap_append blank (begins_of_isDigit digit).1]
    simp [digit, read, unsignedOf, natural, bind, Except.bind, pure, Except.pure]
  read := by
    intro text value rest read
    rcases exists_gap text with ⟨gap, blank, whole⟩
    rw [unsigned, numberAs] at read
    split at read
    · simp at read
    · rename_i c after found
      split at read
      · rcases bind_eq_ok_iff.1 read with ⟨⟨magnitude, behind⟩, readNumber, converted⟩
        cases magnitude with
        | real magnitude => simp [unsignedOf, throw, throwThe, MonadExceptOf.throw] at converted
        | integer magnitude =>
          by_cases negative : magnitude < 0
          · simp [unsignedOf, negative, throw, throwThe, MonadExceptOf.throw] at converted
          · obtain ⟨rfl, rfl⟩ : magnitude.toNat = value ∧ behind = rest := by
              simpa [unsignedOf, negative, pure, Except.pure] using converted
            rcases exists_of_number_natural (by omega) readNumber with
              ⟨written, numeral, small, split⟩
            exact ⟨gap, written, blank, ⟨numeral, small⟩, by rw [whole, found, split]; simp⟩
      · simp at read

end Reader

/-! ### Decimal digits -/

theorem isDigit_digitChar {n : Nat} (small : n < 10) : isDigit n.digitChar = true := by
  decide +revert

theorem WholePart.concat {whole : List Char} (isWhole : WholePart whole) (notZero : whole ≠ ['0'])
    {c : Char} (digit : isDigit c = true) : WholePart (whole ++ [c]) := by
  cases isWhole with
  | zero => exact absurd rfl notZero
  | digits first firstNotZero more =>
    refine .digits first firstNotZero ?_
    intro other member
    rcases List.mem_append.1 member with member | member
    · exact more other member
    · rwa [List.mem_singleton.1 member]

/-- A number is written without leading zeros. -/
theorem wholePart_toDigits (n : Nat) : WholePart (Nat.toDigits 10 n) := by
  induction n using Nat.strongRecOn with
  | ind n ih =>
    by_cases small : n < 10
    · rw [Nat.toDigits_of_lt_base small]
      by_cases zero : n = 0
      · rw [zero]
        exact .zero
      · exact .digits (isDigit_digitChar small) (by simpa using zero) (by simp)
    · rw [Nat.toDigits_of_base_le (by decide) (Nat.le_of_not_lt small)]
      refine (ih (n / 10) (by omega)).concat ?_ (isDigit_digitChar (Nat.mod_lt n (by decide)))
      intro zero
      have value := Nat.ofDigitChars_ten_toDigits (n := n / 10)
      rw [zero] at value
      have tenth : 0 = n / 10 := value
      omega

theorem numeral_toDigits (n : Nat) : Numeral (Nat.toDigits 10 n) n :=
  ⟨wholePart_toDigits n, Nat.ofDigitChars_ten_toDigits⟩

end NodeLocale.Json
