import NodeLocale.Proofs.Basic
import NodeLocale.Proofs.Json.Tokens

/-!
# Values are passed over by the grammar alone

What passes over a value keeps no value, only the arrays and objects that are still open, so nothing
but the grammar decides what it passes. The values of the grammar are passed over step by step, with
the open arrays and objects around them unchanged; and whatever is passed over was derived, since
each bracket that is opened is closed before the step behind it.
-/

namespace NodeLocale.Json

open Reader

namespace Reader

variable {text rest : List Char}

/-! ### What is left of a value that is open -/

/-- Passes over the next element or member of the innermost array or object. -/
def passItem (fuel : Nat) (kind : Enclosing) (outer : List Enclosing) : Reader Unit := fun rest =>
  match kind with
  | .list => skipWithin fuel .before (kind :: outer) rest
  | .object =>
    match skipGap rest with
    | [] => .error (faultNext .eofInObject [])
    | '"' :: rest => do
      let (_, rest) ← skipString rest
      let (_, rest) ← colon rest
      skipWithin fuel .before (kind :: outer) rest
    | rest => .error (faultNext .keyMustBeString rest)

theorem skipWithin_after (fuel : Nat) (comma : Bool) (kind : Enclosing) (outer : List Enclosing)
    (text : List Char) :
    skipWithin (fuel + 1) (.after comma) (kind :: outer) text =
      match skipGap text with
      | [] =>
        .error (faultNext (match kind with | .list => .eofInList | .object => .eofInObject) [])
      | c :: after =>
        if c = ',' && comma then passItem fuel kind outer after
        else if c = kind.closing then skipWithin fuel (.after true) outer after
        else if comma then
          .error (faultNext
            (match kind with | .list => .expectedListEnd | .object => .expectedObjectEnd)
            (c :: after))
        else passItem fuel kind outer (c :: after) := by
  cases kind <;> rw [skipWithin] <;> rfl

/-! ### What is derived is passed over -/

/-- Whether a character may stand in front of a value or a member. -/
def Begins (c : Char) : Prop := isGap c = false ∧ c ≠ ',' ∧ c ≠ ']' ∧ c ≠ '\x7d'

instance (c : Char) : Decidable (Begins c) :=
  inferInstanceAs (Decidable (_ ∧ _ ∧ _ ∧ _))

theorem Begins.ne_closing {c : Char} (begins : Begins c) (kind : Enclosing) : c ≠ kind.closing := by
  cases kind with
  | list => exact begins.2.2.1
  | object => exact begins.2.2.2

theorem begins_of_isDigit {c : Char} (digit : isDigit c = true) : Begins c := by
  refine ⟨?_, ne_of_isDigit digit rfl, ne_of_isDigit digit rfl, ne_of_isDigit digit rfl⟩
  have no : ∀ other, isDigit other = false → c ≠ other := fun _ => ne_of_isDigit digit
  simp [isGap, no ' ' rfl, no '\n' rfl, no '\t' rfl, no '\r' rfl]

/-- Whether a text begins with a character that may stand in front of a value or a member. -/
def BeginsItem (text : List Char) : Prop := ∃ c rest, text = c :: rest ∧ Begins c

theorem beginsItem_of_derives {symbol : Symbol} (derives : Derives symbol text) :
    match symbol with
    | .items _ _ _ => True
    | _ => BeginsItem text := by
  have letter : ∀ {c : Char} (rest : List Char), Begins c → BeginsItem (c :: rest) :=
    fun rest begins => ⟨_, rest, rfl, begins⟩
  induction derives with
  | null => exact letter _ (by decide)
  | true => exact letter _ (by decide)
  | false => exact letter _ (by decide)
  | number isNumber =>
    cases isNumber with
    | unsigned isNumber =>
      rcases isNumber.exists_cons with ⟨c, rest, rfl, digit⟩
      exact letter rest (begins_of_isDigit digit)
    | negative isNumber => exact letter _ (by decide)
  | string isBody => exact letter _ (by decide)
  | array items ih => exact letter _ (by decide)
  | object items ih => exact letter _ (by decide)
  | element value ih => exact ih
  | member isKey blank blankBehind value ih => exact letter _ (by decide)
  | _ => trivial

theorem endsNumber_closing (kind : Enclosing) (rest : List Char) :
    EndsNumber (kind.closing :: rest) := by
  cases kind <;> exact endsNumber_cons rfl (by decide) rest

theorem closing_ne_comma (kind : Enclosing) : kind.closing ≠ ',' := by
  cases kind <;> decide

theorem isGap_closing (kind : Enclosing) : isGap kind.closing = false := by
  cases kind <;> rfl

theorem endsNumber_gap_append {gap : List Char} (blank : Gap gap) (ends : EndsNumber rest) :
    EndsNumber (gap ++ rest) := by
  cases gap with
  | nil => exact ends
  | cons c gap =>
    intro head isHead
    exact endsNumber_of_blank blank head isHead

/-- A number that stands in front of further items ends there. -/
theorem endsNumber_items {kind : Enclosing} {contents : List Item}
    (items : Derives (.items kind false contents) text) (ends : EndsNumber rest) :
    EndsNumber (text ++ rest) := by
  cases items with
  | none blank => exact endsNumber_gap_append blank ends
  | cons separates item more =>
    cases separates with
    | comma blank blankAfter =>
      rw [List.append_assoc, List.append_assoc]
      exact endsNumber_gap_append blank (endsNumber_cons rfl (by decide) _)

/-- Whether a text of a symbol is passed over with everything that is open around it left open. The
steps that this takes are bounded by the length of the text. -/
def Passed (text : List Char) : Symbol → Prop
  | .value => ∃ steps, steps + 1 ≤ 2 * text.length ∧
      ∀ fuel open_ gap rest, Gap gap → EndsNumber rest →
        skipWithin (fuel + steps) .before open_ (gap ++ (text ++ rest)) =
          skipWithin fuel (.after true) open_ rest
  | .items kind first _ => ∃ steps, steps ≤ 2 * text.length + 1 ∧
      ∀ fuel outer rest,
        skipWithin (fuel + steps) (.after !first) (kind :: outer) (text ++ kind.closing :: rest) =
          skipWithin fuel (.after true) outer rest
  | .item kind _ => ∃ steps, steps + 1 ≤ 2 * text.length ∧
      ∀ fuel outer gap rest, Gap gap → EndsNumber rest →
        passItem (fuel + steps) kind outer (gap ++ (text ++ rest)) =
          skipWithin fuel (.after true) (kind :: outer) rest

/-- A value that is passed over in one step. -/
theorem passed_at_once (nonempty : text ≠ [])
    (step : ∀ fuel open_ gap rest, Gap gap → EndsNumber rest →
      skipWithin (fuel + 1) .before open_ (gap ++ (text ++ rest)) =
        skipWithin fuel (.after true) open_ rest) : Passed text .value := by
  have some : 0 < text.length := List.length_pos_iff.2 nonempty
  exact ⟨1, by omega, step⟩

theorem passed_word {c : Char} (letters : List Char)
    (step : ∀ fuel open_ gap rest, Gap gap →
      skipWithin (fuel + 1) .before open_ (gap ++ c :: rest) =
        (word letters rest).bind fun read => skipWithin fuel (.after true) open_ read.2) :
    Passed (c :: letters) .value := by
  apply passed_at_once (by simp)
  intro fuel open_ gap rest blank _
  rw [List.cons_append, step fuel open_ gap _ blank, word_append]
  rfl

theorem passed_number (isNumber : NumberText text) : Passed text .value := by
  cases isNumber with
  | unsigned isNumber =>
    rcases isNumber.exists_cons with ⟨c, more, rfl, digit⟩
    apply passed_at_once (by simp)
    intro fuel open_ gap rest blank ends
    have passed := skipNumber_append isNumber ends
    rw [List.cons_append] at passed ⊢
    have no : ∀ other, isDigit other = false → c ≠ other := fun _ => ne_of_isDigit digit
    rw [skipWithin, skipGap_append blank (begins_of_isDigit digit).1]
    simp [no 'n' rfl, no 't' rfl, no 'f' rfl, no '"' rfl, no '-' rfl, no '[' rfl, no '\x7b' rfl,
      digit, passed, bind, Except.bind]
  | negative isNumber =>
    apply passed_at_once (by simp)
    intro fuel open_ gap rest blank ends
    rw [List.cons_append, skipWithin, skipGap_append blank rfl]
    simp [skipNumber_append isNumber ends, bind, Except.bind]

/-- One step leads from a separator to the item behind it. -/
theorem skipWithin_separator (fuel : Nat) (kind : Enclosing) (outer : List Enclosing)
    (rest : List Char) {first : Bool} {front : List Char} (separates : Separator first front)
    (begins : BeginsItem text) :
    ∃ gap, Gap gap ∧
      skipWithin (fuel + 1) (.after !first) (kind :: outer) (front ++ (text ++ rest)) =
        passItem fuel kind outer (gap ++ (text ++ rest)) := by
  rcases begins with ⟨c, more, rfl, begins⟩
  cases separates with
  | opening blank =>
    refine ⟨[], gap_nil, ?_⟩
    rw [List.cons_append, skipWithin_after, skipGap_append blank begins.1]
    simp [begins.ne_closing]
  | @comma gap after blank blankAfter =>
    refine ⟨after, blankAfter, ?_⟩
    rw [List.append_assoc, List.cons_append, skipWithin_after, skipGap_append blank rfl]
    simp

theorem passed_of_derives {symbol : Symbol} (derives : Derives symbol text) :
    Passed text symbol := by
  induction derives with
  | null =>
    apply passed_word
    intro fuel open_ gap rest blank
    rw [skipWithin, skipGap_append blank rfl]
    rfl
  | true =>
    apply passed_word
    intro fuel open_ gap rest blank
    rw [skipWithin, skipGap_append blank rfl]
    rfl
  | false =>
    apply passed_word
    intro fuel open_ gap rest blank
    rw [skipWithin, skipGap_append blank rfl]
    rfl
  | number isNumber => exact passed_number isNumber
  | string isBody =>
    apply passed_at_once (by simp)
    intro fuel open_ gap rest blank _
    rw [List.cons_append, skipWithin, skipGap_append blank rfl, List.append_assoc,
      List.singleton_append]
    simp [skipString_of_stringBody isBody, bind, Except.bind]
  | array items ih =>
    rcases ih with ⟨steps, bound, passed⟩
    refine ⟨steps + 1, by simp; omega, ?_⟩
    intro fuel open_ gap rest blank _
    rw [List.cons_append, ← Nat.add_assoc, skipWithin, skipGap_append blank rfl, List.append_assoc]
    exact passed fuel open_ rest
  | object items ih =>
    rcases ih with ⟨steps, bound, passed⟩
    refine ⟨steps + 1, by simp; omega, ?_⟩
    intro fuel open_ gap rest blank _
    rw [List.cons_append, ← Nat.add_assoc, skipWithin, skipGap_append blank rfl, List.append_assoc]
    exact passed fuel open_ rest
  | @none kind first gap blank =>
    refine ⟨1, by omega, ?_⟩
    intro fuel outer rest
    rw [skipWithin_after, skipGap_append blank (isGap_closing kind)]
    simp [closing_ne_comma]
  | @cons kind first content contents front text rest separates item more ihItem ihMore =>
    rcases ihItem with ⟨itemSteps, itemBound, itemPassed⟩
    rcases ihMore with ⟨moreSteps, moreBound, morePassed⟩
    refine ⟨moreSteps + itemSteps + 1, by simp only [List.length_append]; omega, ?_⟩
    intro fuel outer behind
    rcases skipWithin_separator (fuel + moreSteps + itemSteps) kind outer
      (rest ++ kind.closing :: behind) separates (beginsItem_of_derives item) with
      ⟨gap, blank, stepped⟩
    simp only [List.append_assoc, ← Nat.add_assoc]
    have ends := endsNumber_items more (endsNumber_closing kind behind)
    rw [stepped, itemPassed _ outer gap _ blank ends]
    exact morePassed fuel outer behind
  | element value ih =>
    rcases ih with ⟨steps, bound, passed⟩
    exact ⟨steps, bound, fun fuel outer => passed fuel (.list :: outer)⟩
  | @member key body before behind text isKey blank blankBehind value ih =>
    rcases ih with ⟨steps, bound, passed⟩
    refine ⟨steps, by simp; omega, ?_⟩
    intro fuel outer gap rest blankGap ends
    simp only [List.append_assoc, List.cons_append]
    rw [passItem, skipGap_append blankGap rfl]
    simp [skipString_of_stringBody isKey.stringBody, colon_append blank,
      passed fuel (.object :: outer) behind rest blankBehind ends, bind, Except.bind]

/-! ### What is passed over is derived -/

/-- What a pass that ended well took in front of a text from which it went on. -/
inductive Took (symbol : Symbol) (text : List Char) : List Char → Prop
  | intro {gap written after : List Char} (blank : Gap gap) (derives : Derives symbol written)
      (split : text = gap ++ (written ++ after)) : Took symbol text after

/-- Whether any pass with that much fuel that ended well took a derived text first. -/
def TakesDerived (fuel : Nat) : Prop :=
  (∀ {open_ text rest}, skipWithin fuel .before open_ text = .ok ((), rest) →
    ∃ fuel' after, fuel' < fuel ∧ Took .value text after ∧
      skipWithin fuel' (.after true) open_ after = .ok ((), rest)) ∧
  ∀ {comma kind outer text rest},
    skipWithin fuel (.after comma) (kind :: outer) text = .ok ((), rest) →
    ∃ fuel' after contents inner, fuel' < fuel ∧ Derives (.items kind (!comma) contents) inner ∧
      text = inner ++ kind.closing :: after ∧
      skipWithin fuel' (.after true) outer after = .ok ((), rest)

/-- A value with the white space in front of it. -/
theorem took_value {c : Char} {written after : List Char} (found : skipGap text = c :: after)
    (derives : Derives .value written) (split : c :: after = written ++ rest) :
    Took .value text rest := by
  rcases exists_gap text with ⟨gap, blank, whole⟩
  exact .intro blank derives (by rw [whole, found, split])

/-- A pass in front of a value takes the value first. -/
theorem takes_value {fuel : Nat} (takes : TakesDerived fuel) {open_ : List Enclosing}
    (passed : skipWithin (fuel + 1) .before open_ text = .ok ((), rest)) :
    ∃ fuel' after, fuel' < fuel + 1 ∧ Took .value text after ∧
      skipWithin fuel' (.after true) open_ after = .ok ((), rest) := by
  have simple : ∀ {c : Char} {written after : List Char} {before : List Char},
      skipGap text = c :: before → Derives .value written → c :: before = written ++ after →
      skipWithin fuel (.after true) open_ after = .ok ((), rest) →
      ∃ fuel' after, fuel' < fuel + 1 ∧ Took .value text after ∧
        skipWithin fuel' (.after true) open_ after = .ok ((), rest) := by
    intro c written after before found derives split passed
    exact ⟨fuel, after, Nat.lt_succ_self fuel, took_value found derives split, passed⟩
  rw [skipWithin] at passed
  split at passed
  · simp at passed
  · rename_i after found
    rcases bind_eq_ok_iff.1 passed with ⟨⟨⟨⟩, behind⟩, read, further⟩
    exact simple found .null (by rw [eq_of_word read]; rfl) further
  · rename_i after found
    rcases bind_eq_ok_iff.1 passed with ⟨⟨⟨⟩, behind⟩, read, further⟩
    exact simple found .true (by rw [eq_of_word read]; rfl) further
  · rename_i after found
    rcases bind_eq_ok_iff.1 passed with ⟨⟨⟨⟩, behind⟩, read, further⟩
    exact simple found .false (by rw [eq_of_word read]; rfl) further
  · rename_i after found
    rcases bind_eq_ok_iff.1 passed with ⟨⟨⟨⟩, behind⟩, read, further⟩
    rcases exists_of_skipString read with ⟨body, isBody, rfl⟩
    exact simple found (.string isBody) (by simp) further
  · rename_i after found
    rcases bind_eq_ok_iff.1 passed with ⟨⟨⟨⟩, behind⟩, read, further⟩
    rcases exists_of_skipNumber read with ⟨number, isNumber, rfl⟩
    exact simple found (.number (.negative isNumber)) rfl further
  · rename_i after found
    rcases takes.2 passed with ⟨fuel', behind, contents, inner, less, items, rfl, further⟩
    exact ⟨fuel', behind, by omega, took_value found (.array items) (by simp [Enclosing.closing]),
      further⟩
  · rename_i after found
    rcases takes.2 passed with ⟨fuel', behind, contents, inner, less, items, rfl, further⟩
    exact ⟨fuel', behind, by omega, took_value found (.object items) (by simp [Enclosing.closing]),
      further⟩
  · rename_i c after _ _ _ _ _ _ _ found
    split at passed
    · rcases bind_eq_ok_iff.1 passed with ⟨⟨⟨⟩, behind⟩, read, further⟩
      rcases exists_of_skipNumber read with ⟨number, isNumber, split⟩
      exact simple found (.number (.unsigned isNumber)) split further
    · simp at passed

/-- A pass in front of an element or a member takes it first. -/
theorem takes_item {fuel : Nat} (takes : TakesDerived fuel) {kind : Enclosing}
    {outer : List Enclosing} (passed : passItem fuel kind outer text = .ok ((), rest)) :
    ∃ fuel' after content, fuel' < fuel ∧ Took (.item kind content) text after ∧
      skipWithin fuel' (.after true) (kind :: outer) after = .ok ((), rest) := by
  cases kind with
  | list =>
    rcases takes.1 passed with ⟨fuel', after, less, ⟨blank, derives, split⟩, further⟩
    exact ⟨fuel', after, _, less, .intro blank (.element derives) split, further⟩
  | object =>
    rcases exists_gap text with ⟨gap, blank, whole⟩
    simp only [passItem] at passed
    split at passed
    · simp at passed
    · rename_i behind found
      rcases bind_eq_ok_iff.1 passed with ⟨⟨⟨⟩, behindKey⟩, readKey, passed⟩
      rcases bind_eq_ok_iff.1 passed with ⟨⟨⟨⟩, behindColon⟩, readColon, readValue⟩
      rcases exists_of_skipString readKey with ⟨body, isBody, rfl⟩
      rcases exists_of_colon readColon with ⟨before, blankBefore, rfl⟩
      rcases takes.1 readValue with ⟨fuel', after, less, ⟨blankBehind, derives, rfl⟩, further⟩
      rcases exists_keyBody isBody with ⟨key, isKey⟩
      refine ⟨fuel', after, _, less,
        .intro blank (.member isKey blankBefore blankBehind derives) ?_,
        further⟩
      rw [whole, found]
      simp
    · simp at passed

/-- A pass behind an opening bracket or an item takes what is left up to the closing bracket. -/
theorem takes_items {fuel : Nat} (takes : ∀ less ≤ fuel, TakesDerived less) {comma : Bool}
    {kind : Enclosing} {outer : List Enclosing}
    (passed : skipWithin (fuel + 1) (.after comma) (kind :: outer) text = .ok ((), rest)) :
    ∃ fuel' after contents inner, fuel' < fuel + 1 ∧
      Derives (.items kind (!comma) contents) inner ∧ text = inner ++ kind.closing :: after ∧
      skipWithin fuel' (.after true) outer after = .ok ((), rest) := by
  rcases exists_gap text with ⟨gap, blank, whole⟩
  rw [skipWithin_after] at passed
  split at passed
  · simp at passed
  · rename_i c after found
    rw [found] at whole
    by_cases next : (c = ',' && comma) = true
    · rw [if_pos next] at passed
      obtain ⟨rfl, rfl⟩ : c = ',' ∧ comma = true := by simpa using next
      rcases takes_item (takes fuel (Nat.le_refl fuel)) passed with
        ⟨fuel', behind, content, less, ⟨blankAfter, item, rfl⟩, further⟩
      rcases (takes fuel' less.le).2 further with
        ⟨fuel'', last, contents, inner, less', more, rfl, ends⟩
      exact ⟨fuel'', last, _, _, by omega, .cons (.comma blank blankAfter) item more,
        by simp [whole], ends⟩
    · rw [if_neg next] at passed
      by_cases closes : c = kind.closing
      · rw [if_pos closes] at passed
        exact ⟨fuel, after, [], gap, by omega, .none blank, by rw [whole, closes], passed⟩
      · rw [if_neg closes] at passed
        cases comma with
        | true => simp at passed
        | false =>
          rw [if_neg (by simp)] at passed
          rcases takes_item (takes fuel (Nat.le_refl fuel)) passed with
            ⟨fuel', behind, content, less, ⟨blankAfter, item, split⟩, further⟩
          rcases (takes fuel' less.le).2 further with
            ⟨fuel'', last, contents, inner, less', more, rfl, ends⟩
          exact ⟨fuel'', last, _, _, by omega,
            .cons (.opening (gap_append blank blankAfter)) item more, by simp [whole, split], ends⟩

theorem takesDerived (fuel : Nat) : TakesDerived fuel := by
  induction fuel using Nat.strongRecOn with
  | ind fuel ih =>
    cases fuel with
    | zero =>
      constructor
      · intro open_ text rest passed
        simp [skipWithin] at passed
      · intro comma kind outer text rest passed
        simp [skipWithin] at passed
    | succ fuel =>
      constructor
      · intro open_ text rest passed
        exact takes_value (ih fuel (Nat.lt_succ_self fuel)) passed
      · intro comma kind outer text rest passed
        exact takes_items (fun less bound => ih less (Nat.lt_succ_of_le bound)) passed

/-- What is passed over are exactly the values of the grammar. -/
theorem recognizes_skip : Recognizes skip fun text _ => Derives .value text where
  reads := by
    intro text _ derives gap rest blank ends
    rcases passed_of_derives derives with ⟨steps, bound, passed⟩
    have enough : 2 * (gap ++ text ++ rest).length + 2 =
        2 * (gap ++ text ++ rest).length + 1 - steps + 1 + steps := by
      simp only [List.length_append]
      omega
    rw [skip, enough, List.append_assoc, passed _ [] gap rest blank ends]
    rfl
  read := by
    intro text _ rest passed
    rcases (takesDerived _).1 passed with ⟨fuel, after, -, ⟨blank, derives, split⟩, ends⟩
    cases fuel with
    | zero => simp [skipWithin] at ends
    | succ fuel =>
      obtain rfl : after = rest := by simpa [skipWithin] using ends
      exact ⟨_, _, blank, derives, by rw [split, List.append_assoc]⟩

/-! ### A text is derived in one way only -/

theorem Recognizes.rest_eq {α : Type} {reader : Reader α} {form : List Char → α → Prop}
    (recognizes : Recognizes reader form) {gap gap' text text' rest rest' : List Char}
    {value value' : α} (blank : Gap gap) (blank' : Gap gap') (isForm : form text value)
    (isForm' : form text' value') (ends : EndsNumber rest) (ends' : EndsNumber rest')
    (same : gap ++ (text ++ rest) = gap' ++ (text' ++ rest')) : value = value' ∧ rest = rest' := by
  have read := recognizes.reads isForm gap rest blank ends
  have read' := recognizes.reads isForm' gap' rest' blank' ends'
  rw [List.append_assoc] at read read'
  rw [same, read'] at read
  simpa [eq_comm] using read

/-- A value that begins two texts ends at the same place in both. -/
theorem value_eq {gap gap' text text' rest rest' : List Char} (blank : Gap gap) (blank' : Gap gap')
    (value : Derives .value text) (value' : Derives .value text') (ends : EndsNumber rest)
    (ends' : EndsNumber rest') (same : gap ++ (text ++ rest) = gap' ++ (text' ++ rest')) :
    text = text' ∧ rest = rest' := by
  obtain ⟨-, rfl⟩ : () = () ∧ rest = rest' :=
    recognizes_skip.rest_eq blank blank' value value' ends ends' same
  have front : gap ++ text = gap' ++ text' := by
    rw [← List.append_assoc, ← List.append_assoc] at same
    exact List.append_cancel_right same
  rcases beginsItem_of_derives value with ⟨c, more, rfl, begins⟩
  rcases beginsItem_of_derives value' with ⟨c', more', rfl, begins'⟩
  obtain ⟨rfl, rfl⟩ := eq_of_gap_append blank blank' begins.1 begins'.1 front
  exact ⟨rfl, rfl⟩

theorem key_eq {body : List Char} {key key' : Option String} (isKey : KeyBody body key)
    (isKey' : KeyBody body key') : key = key' := by
  cases key with
  | none =>
    cases key' with
    | none => rfl
    | some key' => exact absurd isKey' (isKey.2 key'.toList)
  | some key =>
    cases key' with
    | none => exact absurd isKey (isKey'.2 key.toList)
    | some key' => rw [String.toList_injective (letters_eq isKey isKey')]

theorem item_eq {kind : Enclosing} {content content' : Item}
    {gap gap' text text' rest rest' : List Char}
    (blank : Gap gap) (blank' : Gap gap') (item : Derives (.item kind content) text)
    (item' : Derives (.item kind content') text') (ends : EndsNumber rest)
    (ends' : EndsNumber rest')
    (same : gap ++ (text ++ rest) = gap' ++ (text' ++ rest')) :
    content = content' ∧ rest = rest' := by
  cases item with
  | element value =>
    cases item' with
    | element value' =>
      obtain ⟨rfl, rfl⟩ := value_eq blank blank' value value' ends ends' same
      exact ⟨rfl, rfl⟩
  | @member key body before behind text isKey blankBefore blankBehind value =>
    cases item' with
    | @member key' body' before' behind' text' isKey' blankBefore' blankBehind' value' =>
      simp only [List.cons_append, List.append_assoc] at same
      obtain ⟨-, same⟩ := eq_of_gap_append blank blank' rfl rfl same
      -- The key ends where what passes over a string stops.
      have skipped := skipString_of_stringBody isKey.stringBody
        (before ++ ':' :: (behind ++ (text ++ rest)))
      rw [same, skipString_of_stringBody isKey'.stringBody] at skipped
      have sameRest : before' ++ ':' :: (behind' ++ (text' ++ rest')) =
        before ++ ':' :: (behind ++ (text ++ rest)) := by simpa using skipped
      rw [sameRest] at same
      obtain rfl := List.append_cancel_right same
      obtain ⟨-, same⟩ := eq_of_gap_append blankBefore' blankBefore rfl rfl sameRest
      obtain ⟨rfl, rfl⟩ := value_eq blankBehind' blankBehind value' value ends' ends same
      rw [key_eq isKey isKey']
      exact ⟨rfl, rfl⟩

theorem not_gap_of_items {kind : Enclosing} {first : Bool} {content : Item} {contents : List Item}
    (items : Derives (.items kind first (content :: contents)) text) : ¬Gap text := by
  intro blank
  cases items with
  | cons separates item more =>
    rcases beginsItem_of_derives item with ⟨c, rest, rfl, begins⟩
    have visible := blank c (by simp)
    simp [begins.1] at visible

/-- Two separators in front of items leave the same text. -/
theorem separator_eq {first : Bool} {front front' : List Char} (separates : Separator first front)
    (separates' : Separator first front') {text' rest rest' : List Char} (begins : BeginsItem text)
    (begins' : BeginsItem text') (same : front ++ (text ++ rest) = front' ++ (text' ++ rest')) :
    text ++ rest = text' ++ rest' := by
  rcases begins with ⟨c, more, rfl, begins⟩
  rcases begins' with ⟨c', more', rfl, begins'⟩
  have visible : ∀ {gap gap' : List Char}, Gap gap → Gap gap' →
      gap ++ c :: (more ++ rest) = gap' ++ c' :: (more' ++ rest') →
      c :: (more ++ rest) = c' :: (more' ++ rest') := by
    intro gap gap' blank blank' same
    rcases eq_of_gap_append blank blank' begins.1 begins'.1 same with ⟨rfl, left⟩
    rw [left]
  cases separates with
  | opening blank =>
    cases separates' with
    | opening blank' => exact visible blank blank' same
  | comma blank blankAfter =>
    generalize written : front' = other at separates'
    cases separates' with
    | comma blank' blankAfter' =>
      rw [written, List.append_assoc, List.append_assoc] at same
      exact visible blankAfter blankAfter' (eq_of_gap_append blank blank' rfl rfl same).2

/-- What stands between brackets lists the same elements or members in each derivation. -/
theorem contents_eq {kind : Enclosing} {first : Bool} {contents contents' : List Item}
    (items : Derives (.items kind first contents) text)
    (items' : Derives (.items kind first contents') text) : contents = contents' := by
  have ends : ∀ {others : List Item} {rest : List Char},
      Derives (.items kind false others) rest → EndsNumber rest := by
    intro others rest more
    simpa using endsNumber_items more endsNumber_nil
  induction contents generalizing first contents' text with
  | nil =>
    cases contents' with
    | nil => rfl
    | cons content' contents' =>
      cases items with
      | none blank => exact absurd blank (not_gap_of_items items')
  | cons content contents ih =>
    cases contents' with
    | nil =>
      cases items' with
      | none blank => exact absurd blank (not_gap_of_items items)
    | cons content' contents' =>
      generalize whole : text = written at items'
      cases items with
      | cons separates item more =>
        cases items' with
        | cons separates' item' more' =>
          have same := separator_eq separates separates' (beginsItem_of_derives item)
            (beginsItem_of_derives item') whole
          obtain ⟨rfl, rfl⟩ := item_eq gap_nil gap_nil item item' (ends more) (ends more') same
          rw [ih more more']

end Reader

end NodeLocale.Json
