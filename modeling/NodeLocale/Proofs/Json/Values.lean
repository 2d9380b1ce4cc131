import NodeLocale.Proofs.Json.Loops
import NodeLocale.Proofs.Json.Numbers

/-!
# What JSON texts denote

A text of the grammar denotes a value unless it is nested too deep, has a number that no double
holds or a string with half a character. A repeated key keeps its first place and its last value.
The reader of values takes exactly the texts that denote one, level by level.
-/

namespace NodeLocale.Json

open Reader

/-- Which values the texts without brackets denote. -/
inductive DenotesScalar : List Char → Json → Prop
  | null : DenotesScalar ['n', 'u', 'l', 'l'] .null
  | true : DenotesScalar ['t', 'r', 'u', 'e'] (.bool true)
  | false : DenotesScalar ['f', 'a', 'l', 's', 'e'] (.bool false)
  | number {text : List Char} {value : JsonNumber} (read : Reader.number text = .ok (value, [])) :
      DenotesScalar text (.number value)
  | string {text : List Char} {value : String} (isText : StringText text value) :
      DenotesScalar text (.string value)

/-- Whether a member of an object gives an entry, told what its value denotes. -/
structure IsEntry (inside : List Char → Json → Prop) (item : Item) (entry : String × Json) :
    Prop where
  key : item.key = some entry.1
  value : inside item.text entry.2

/-- Which values the texts in brackets denote, given what the texts inside them denote. -/
inductive DenotesBracketed (inside : List Char → Json → Prop) : List Char → Json → Prop
  | array {contents : List Item} {inner : List Char} {items : List Json}
      (derives : Derives (.items .list true contents) inner)
      (each : List.Forall₂ (fun item value => inside item.text value) contents items) :
      DenotesBracketed inside ('[' :: (inner ++ [']'])) (.array items)
  | object {contents : List Item} {inner : List Char} {members : List (String × Json)}
      (derives : Derives (.items .object true contents) inner)
      (each : List.Forall₂ (IsEntry inside) contents members) :
      DenotesBracketed inside ('\x7b' :: (inner ++ ['\x7d'])) (.object (Entries.collect members))

/-- Which values the texts denote that are nested at most so deep. -/
def Denotes : Nat → List Char → Json → Prop
  | 0, text, value => DenotesScalar text value
  | nesting + 1, text, value =>
    DenotesScalar text value ∨ DenotesBracketed (Denotes nesting) text value

theorem DenotesScalar.derives {text : List Char} {value : Json}
    (denotes : DenotesScalar text value) : Derives .value text := by
  cases denotes with
  | null => exact .null
  | true => exact .true
  | false => exact .false
  | number read =>
    rcases exists_of_number read with ⟨written, isNumber, whole, -⟩
    rw [List.append_nil] at whole
    rw [whole]
    exact .number isNumber
  | string isText => exact isText.derives

theorem DenotesScalar.denotes {text : List Char} {value : Json} (scalar : DenotesScalar text value)
    (nesting : Nat) : Denotes nesting text value := by
  cases nesting with
  | zero => exact scalar
  | succ nesting => exact .inl scalar

theorem Denotes.derives {nesting : Nat} {text : List Char} {value : Json}
    (denotes : Denotes nesting text value) : Derives .value text := by
  cases nesting with
  | zero => exact DenotesScalar.derives denotes
  | succ nesting =>
    rcases denotes with scalar | bracketed
    · exact scalar.derives
    · cases bracketed with
      | array derives each => exact .array derives
      | object derives each => exact .object derives

/-- No key is repeated in an object that a text denotes. -/
theorem Denotes.distinct {nesting : Nat} {text : List Char} {members : List (String × Json)}
    (denotes : Denotes nesting text (.object members)) : (members.map Prod.fst).Nodup := by
  cases nesting with
  | zero => cases denotes
  | succ nesting =>
    rcases denotes with scalar | bracketed
    · cases scalar
    · cases bracketed with
      | object derives each => exact Entries.nodup_keys_collect _

/-- An object is denoted between braces. -/
theorem Denotes.exists_braces {nesting : Nat} {text : List Char} {members : List (String × Json)}
    (denotes : Denotes nesting text (.object members)) :
    ∃ inner, text = '\x7b' :: (inner ++ ['\x7d']) := by
  cases nesting with
  | zero => cases denotes
  | succ nesting =>
    rcases denotes with scalar | bracketed
    · cases scalar
    · cases bracketed with
      | object derives each => exact ⟨_, rfl⟩

namespace Reader

/-! ### Entries -/

variable {item : Reader Json} {form : List Char → Json → Prop}

/-- What a member adds to the entries of an object. -/
def AddsEntry (form : List Char → Json → Prop) (key : String) (text : List Char)
    (before after : List (String × Json)) : Prop :=
  ∃ value, form text value ∧ after = Entries.upsert key value before

theorem takesMembers_entryOf (recognizes : Recognizes item form)
    (derives : ∀ {text value}, form text value → Derives .value text) :
    TakesMembers (entryOf item) (AddsEntry form) where
  derives := by
    rintro key text before after ⟨value, isForm, -⟩
    exact derives isForm
  reads := by
    rintro key text before after gap behind rest ⟨value, isForm, rfl⟩ blank blankBehind ends
    have read := recognizes.reads isForm behind rest blankBehind ends
    rw [List.append_assoc] at read
    simp [entryOf, colon_append blank, read, bind, Except.bind, pure, Except.pure]
  read := by
    intro key before input after rest read
    rcases bind_eq_ok_iff.1 read with ⟨⟨⟨⟩, behindColon⟩, readColon, read⟩
    rcases bind_eq_ok_iff.1 read with ⟨⟨value, behindValue⟩, readValue, done⟩
    obtain ⟨rfl, rfl⟩ : Entries.upsert key value before = after ∧ behindValue = rest := by
      simpa [pure, Except.pure] using done
    rcases exists_of_colon readColon with ⟨gap, blank, rfl⟩
    rcases recognizes.read readValue with ⟨behind, text, blankBehind, isForm, rfl⟩
    exact ⟨gap, behind, text, blank, blankBehind, ⟨value, isForm, rfl⟩, by simp⟩

/-- Members are added one after another. -/
theorem fills_addsEntry_iff {contents : List Item} {before after : List (String × Json)} :
    Fills (AddsEntry form) contents before after ↔
      ∃ entries : List (String × Json), List.Forall₂ (IsEntry form) contents entries ∧
        after = entries.foldl (fun done entry => Entries.upsert entry.1 entry.2 done) before := by
  constructor
  · intro fills
    induction fills with
    | nil state => exact ⟨[], .nil, rfl⟩
    | @cons key text contents first next last head tail ih =>
      rcases head with ⟨value, isForm, rfl⟩
      rcases ih with ⟨entries, each, rfl⟩
      exact ⟨(key, value) :: entries, .cons ⟨rfl, isForm⟩ each, rfl⟩
  · rintro ⟨entries, each, rfl⟩
    induction each generalizing before with
    | nil => exact .nil before
    | @cons item entry contents entries head tail ih =>
      rcases item with ⟨key, text⟩
      rcases head with ⟨isKey, isForm⟩
      obtain rfl : key = some entry.1 := isKey
      exact .cons ⟨entry.2, isForm, rfl⟩ ih

/-! ### Values -/

theorem exists_cons_of_number {text : List Char} {value : JsonNumber}
    (read : number text = .ok (value, [])) :
    ∃ c more, text = c :: more ∧ (c = '-' ∨ isDigit c = true) := by
  rcases exists_of_number read with ⟨written, isNumber, rfl, -⟩
  rw [List.append_nil]
  cases isNumber with
  | unsigned isNumber =>
    rcases isNumber.exists_cons with ⟨c, more, rfl, digit⟩
    exact ⟨c, more, rfl, .inr digit⟩
  | negative isNumber => exact ⟨'-', _, rfl, .inl rfl⟩

/-- What begins with a digit or a minus sign is read as a number. -/
theorem valueWithin_number (depth : Nat) {gap : List Char} (blank : Gap gap) {c : Char}
    (begins : c = '-' ∨ isDigit c = true) (rest : List Char) :
    valueWithin (depth + 1) (gap ++ c :: rest) =
      (number (c :: rest)).map fun read => (.number read.1, read.2) := by
  rcases begins with rfl | digit
  · rw [valueWithin, skipGap_append blank rfl]
    cases read : number ('-' :: rest) <;>
      simp [read, bind, Except.bind, pure, Except.pure, Except.map]
  · have no : ∀ other, isDigit other = false → c ≠ other := fun _ => ne_of_isDigit digit
    rw [valueWithin, skipGap_append blank (begins_of_isDigit digit).1]
    cases read : number (c :: rest) <;>
      simp [no 'n' rfl, no 't' rfl, no 'f' rfl, no '"' rfl, no '[' rfl, no '\x7b' rfl, digit, read,
        bind, Except.bind, pure, Except.pure, Except.map]

theorem valueWithin_scalar (depth : Nat) {text : List Char} {value : Json}
    (denotes : DenotesScalar text value) : Reads (valueWithin (depth + 1)) text value := by
  intro gap rest blank ends
  rw [List.append_assoc]
  cases denotes with
  | null =>
    rw [List.cons_append, valueWithin, skipGap_append blank rfl]
    rfl
  | true =>
    rw [List.cons_append, valueWithin, skipGap_append blank rfl]
    rfl
  | false =>
    rw [List.cons_append, valueWithin, skipGap_append blank rfl]
    rfl
  | number read =>
    rcases exists_cons_of_number read with ⟨c, more, rfl, begins⟩
    rcases exists_of_number read with ⟨written, -, whole, anywhere⟩
    obtain rfl : c :: more = written := by simpa using whole
    have readOn := anywhere rest ends
    rw [List.cons_append] at readOn ⊢
    rw [valueWithin_number depth blank begins, readOn]
    rfl
  | string isText =>
    rcases isText with ⟨body, rfl, spells⟩
    rw [List.cons_append, valueWithin, skipGap_append blank rfl, List.append_assoc]
    simp [text_of_spells spells, bind, Except.bind, pure, Except.pure]

/-- What stands in brackets is read one level below the brackets. -/
theorem valueWithin_bracketed {depth : Nat} {inside : List Char → Json → Prop}
    (recognizes : Recognizes (valueWithin (depth + 1)) inside)
    (derives : ∀ {text value}, inside text value → Derives .value text) {text : List Char}
    {value : Json} (denotes : DenotesBracketed inside text value) :
    Reads (valueWithin (depth + 2)) text value := by
  intro gap rest blank _
  rw [List.append_assoc]
  cases denotes with
  | array items each =>
    have read := elements_array recognizes each items rest
    rw [List.cons_append, List.append_assoc, List.singleton_append, valueWithin,
      skipGap_append blank rfl]
    simp [-List.length_append, read, closeList_bracket, bind, Except.bind, pure, Except.pure]
  | object items each =>
    have fills : Fills (AddsEntry inside) _ [] _ := fills_addsEntry_iff.2 ⟨_, each, rfl⟩
    have read := members_object (takesMembers_entryOf recognizes derives) fills items rest
    rw [List.cons_append, List.append_assoc, List.singleton_append, valueWithin,
      skipGap_append blank rfl]
    simp [-List.length_append, read, closeObject_brace, bind, Except.bind, pure, Except.pure,
      Entries.collect]

theorem exists_of_array {inside : List Char → Json → Prop} {element : Reader Json}
    (recognizes : Recognizes element inside)
    (derives : ∀ {text value}, inside text value → Derives .value text) {fuel : Nat}
    {text behind rest : List Char} {items : List Json}
    (readItems : elements element fuel true text = .ok (items, behind))
    (closes : closeList behind = .ok ((), rest)) :
    ∃ written, DenotesBracketed inside ('[' :: written) (.array items) ∧
      text = written ++ rest := by
  rcases exists_of_elements recognizes derives readItems with
    ⟨contents, inner, start, derived, each, rfl, rfl⟩
  obtain rfl : start = rest := by simpa [closeList_bracket] using closes
  exact ⟨inner ++ [']'], .array derived each, by simp⟩

theorem exists_of_object {inside : List Char → Json → Prop} {element : Reader Json}
    (recognizes : Recognizes element inside)
    (derives : ∀ {text value}, inside text value → Derives .value text) {fuel : Nat}
    {text behind rest : List Char} {entries : List (String × Json)}
    (readEntries : members (entryOf element) fuel true [] text = .ok (entries, behind))
    (closes : closeObject behind = .ok ((), rest)) :
    ∃ written, DenotesBracketed inside ('\x7b' :: written) (.object entries) ∧
      text = written ++ rest := by
  rcases exists_of_members (takesMembers_entryOf recognizes derives) readEntries with
    ⟨contents, inner, start, derived, fills, rfl, rfl⟩
  rcases fills_addsEntry_iff.1 fills with ⟨members, each, rfl⟩
  obtain rfl : start = rest := by simpa [closeObject_brace] using closes
  exact ⟨inner ++ ['\x7d'], .object derived each, by simp⟩

theorem exists_of_returned {α : Type} {taken : Except Fault (α × List Char)} {rest : List Char}
    {value : Json} (make : α → Json)
    (read : (do let (inner, rest) ← taken; return (make inner, rest)) = .ok (value, rest)) :
    ∃ inner, taken = .ok (inner, rest) ∧ make inner = value := by
  rcases bind_eq_ok_iff.1 read with ⟨⟨inner, behind⟩, isTaken, done⟩
  obtain ⟨rfl, rfl⟩ : make inner = value ∧ behind = rest := by simpa [pure, Except.pure] using done
  exact ⟨inner, isTaken, rfl⟩

/-- What was taken behind white space denotes the value that was read. -/
theorem exists_of_valueWithin {depth : Nat} (inside : List Char → Json → Prop)
    (recognizes : 0 < depth → Recognizes (valueWithin depth) inside)
    (derives : ∀ {text value}, inside text value → Derives .value text) {text rest : List Char}
    {value : Json} (read : valueWithin (depth + 1) text = .ok (value, rest)) :
    ∃ gap written, Gap gap ∧ (DenotesScalar written value ∨
      0 < depth ∧ DenotesBracketed inside written value) ∧ text = gap ++ written ++ rest := by
  rcases exists_gap text with ⟨gap, blank, whole⟩
  suffices found : ∃ written, (DenotesScalar written value ∨
      0 < depth ∧ DenotesBracketed inside written value) ∧ skipGap text = written ++ rest by
    rcases found with ⟨written, denotes, split⟩
    exact ⟨gap, written, blank, denotes, by rw [whole, split, List.append_assoc]⟩
  rw [valueWithin] at read
  split at read
  · simp at read
  · rename_i after found
    rcases exists_of_returned (fun _ => .null) read with ⟨⟨⟩, readWord, rfl⟩
    exact ⟨_, .inl .null, by rw [found, eq_of_word readWord]; rfl⟩
  · rename_i after found
    rcases exists_of_returned (fun _ => .bool true) read with ⟨⟨⟩, readWord, rfl⟩
    exact ⟨_, .inl .true, by rw [found, eq_of_word readWord]; rfl⟩
  · rename_i after found
    rcases exists_of_returned (fun _ => .bool false) read with ⟨⟨⟩, readWord, rfl⟩
    exact ⟨_, .inl .false, by rw [found, eq_of_word readWord]; rfl⟩
  · rename_i after found
    rcases exists_of_returned .string read with ⟨text, readText, rfl⟩
    rcases exists_of_text readText with ⟨body, spells, rfl⟩
    exact ⟨_, .inl (.string ⟨body, rfl, spells⟩), by simp [found]⟩
  · rename_i after found
    split at read
    · simp at read
    · rename_i nested
      rcases bind_eq_ok_iff.1 read with ⟨⟨items, behind⟩, readItems, more⟩
      rcases exists_of_returned (fun _ => .array items) more with ⟨⟨⟩, closes, rfl⟩
      have deeper : 0 < depth := Nat.pos_of_ne_zero nested
      rcases exists_of_array (recognizes deeper) derives readItems closes with
        ⟨written, denotes, rfl⟩
      exact ⟨_, .inr ⟨deeper, denotes⟩, found⟩
  · rename_i after found
    split at read
    · simp at read
    · rename_i nested
      rcases bind_eq_ok_iff.1 read with ⟨⟨entries, behind⟩, readEntries, more⟩
      rcases exists_of_returned (fun _ => .object entries) more with ⟨⟨⟩, closes, rfl⟩
      have deeper : 0 < depth := Nat.pos_of_ne_zero nested
      rcases exists_of_object (recognizes deeper) derives readEntries closes with
        ⟨written, denotes, rfl⟩
      exact ⟨_, .inr ⟨deeper, denotes⟩, found⟩
  · rename_i c after _ _ _ _ _ _ found
    split at read
    · rcases exists_of_returned .number read with ⟨result, readNumber, rfl⟩
      rcases exists_of_number readNumber with ⟨written, -, split, anywhere⟩
      have alone := anywhere [] endsNumber_nil
      rw [List.append_nil] at alone
      exact ⟨written, .inl (.number alone), by rw [found, split]⟩
    · simp at read

/-- The reader of values takes exactly the texts that denote one, nested less deep than it stops
at. -/
theorem recognizes_valueWithin (nesting : Nat) :
    Recognizes (valueWithin (nesting + 1)) (Denotes nesting) := by
  induction nesting with
  | zero =>
    refine ⟨fun denotes => valueWithin_scalar 0 denotes, ?_⟩
    intro text value rest read
    rcases exists_of_valueWithin (Denotes 0) (fun deeper => absurd deeper (Nat.lt_irrefl 0))
      Denotes.derives read with ⟨gap, written, blank, denotes | ⟨deeper, -⟩, whole⟩
    · exact ⟨gap, written, blank, denotes, whole⟩
    · exact absurd deeper (Nat.lt_irrefl 0)
  | succ nesting ih =>
    constructor
    · intro text value denotes
      rcases denotes with scalar | bracketed
      · exact valueWithin_scalar (nesting + 1) scalar
      · exact valueWithin_bracketed ih Denotes.derives bracketed
    · intro text value rest read
      rcases exists_of_valueWithin (Denotes nesting) (fun _ => ih) Denotes.derives read with
        ⟨gap, written, blank, scalar | ⟨-, bracketed⟩, whole⟩
      · exact ⟨gap, written, blank, .inl scalar, whole⟩
      · exact ⟨gap, written, blank, .inr bracketed, whole⟩

end Reader

end NodeLocale.Json
