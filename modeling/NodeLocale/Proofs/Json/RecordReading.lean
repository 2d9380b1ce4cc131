import NodeLocale.Proofs.Json.Loops

/-!
# What records are read from

A record is read from an object whose members give each of its fields at most once, whatever the
other members are, or from an array whose elements give the first of its fields. Which texts give a
field, and what they do to the record, is a parameter here. What becomes of one component of a
record depends on the texts under one name only, if no other field has to do with this component.
-/

namespace NodeLocale.Json

open Reader

variable {σ : Type}

/-- The texts of the members of a name, in their order. -/
def textsOf (name : String) (contents : List Item) : List (List Char) :=
  contents.filterMap fun item => if item.key = some name then some item.text else none

theorem textsOf_cons_of_eq (name : String) (text : List Char) (contents : List Item) :
    textsOf name (⟨some name, text⟩ :: contents) = text :: textsOf name contents := by
  simp [textsOf]

theorem textsOf_cons_of_ne {name : String} {item : Item} (different : item.key ≠ some name)
    (contents : List Item) : textsOf name (item :: contents) = textsOf name contents := by
  simp [textsOf, different]

theorem mem_textsOf_iff {name : String} {text : List Char} {contents : List Item} :
    text ∈ textsOf name contents ↔ ⟨some name, text⟩ ∈ contents := by
  simp only [textsOf, List.mem_filterMap]
  constructor
  · rintro ⟨⟨key, written⟩, member, found⟩
    obtain ⟨rfl, rfl⟩ : key = some name ∧ written = text := by simpa using found
    exact member
  · intro member
    exact ⟨_, member, by simp⟩

theorem Reader.Recognizes.congr {α : Type} {reader : Reader α} {form other : List Char → α → Prop}
    (recognizes : Recognizes reader form)
    (same : ∀ text value, form text value ↔ other text value) :
    Recognizes reader other := by
  have forms : form = other := by
    ext text value
    exact same text value
  rwa [← forms]

theorem recognizes_field {α : Type} {item : Reader α} {form : List Char → α → Prop}
    (recognizes : Recognizes item form) (name : String) (store : α → σ → σ) :
    Recognizes (field name item store).update fun text change =>
      ∃ value, form text value ∧ change = store value where
  reads := by
    rintro text change ⟨value, isForm, rfl⟩
    exact reads_field name (recognizes.reads isForm)
  read := by
    intro text change rest read
    rcases bind_eq_ok_iff.1 read with ⟨⟨value, behind⟩, readItem, done⟩
    obtain ⟨rfl, rfl⟩ : store value = change ∧ behind = rest := by
      simpa [pure, Except.pure] using done
    rcases recognizes.read readItem with ⟨gap, written, blank, isForm, split⟩
    exact ⟨gap, written, blank, ⟨value, isForm, rfl⟩, split⟩

/-- A value that may be null, if the text of no value begins like null. -/
theorem recognizes_optional {α : Type} {item : Reader α} {form : List Char → α → Prop}
    (recognizes : Recognizes item form)
    (begins : ∀ {text value}, form text value →
      ∃ c rest, text = c :: rest ∧ isGap c = false ∧ c ≠ 'n') :
    Recognizes (Reader.optional item) fun text value =>
      (text = ['n', 'u', 'l', 'l'] ∧ value = none) ∨ ∃ known, form text known ∧ value = some known
    where
  reads := by
    rintro text value (⟨rfl, rfl⟩ | ⟨value, isForm, rfl⟩) gap rest blank ends
    · rw [Reader.optional, List.append_assoc, List.cons_append, skipGap_append blank rfl]
      simp [word, bind, Except.bind, pure, Except.pure]
    · have read := recognizes.reads isForm [] rest gap_nil ends
      rcases begins isForm with ⟨c, more, rfl, visible, noNull⟩
      rw [List.nil_append, List.cons_append] at read
      rw [Reader.optional, List.append_assoc, List.cons_append, skipGap_append blank visible]
      simp [noNull, read, bind, Except.bind, pure, Except.pure]
  read := by
    intro text value rest read
    rcases exists_gap text with ⟨gap, blank, whole⟩
    rw [Reader.optional] at read
    split at read
    · rename_i behind found
      rcases bind_eq_ok_iff.1 read with ⟨⟨⟨⟩, behind⟩, readWord, done⟩
      obtain ⟨rfl, rfl⟩ : none = value ∧ behind = rest := by simpa [pure, Except.pure] using done
      refine ⟨gap, _, blank, .inl ⟨rfl, rfl⟩, ?_⟩
      rw [whole, found, eq_of_word readWord]
      simp
    · rcases bind_eq_ok_iff.1 read with ⟨⟨value', behind⟩, readItem, done⟩
      obtain ⟨rfl, rfl⟩ : some value' = value ∧ behind = rest := by
        simpa [pure, Except.pure] using done
      rcases recognizes.read readItem with ⟨gap', written, blank', isForm, split⟩
      exact ⟨gap ++ gap', written, gap_append blank blank', .inr ⟨value', isForm, rfl⟩,
        by rw [whole, split]; simp⟩

namespace Record

/-- Whether the fields of a record are given by the texts of a form, and what they change. -/
structure HasForms (record : Record σ) (forms : String → List Char → (σ → σ) → Prop) : Prop where
  recognizes : ∀ field ∈ record.fields, Recognizes field.update (forms field.name)
  derives : ∀ {name text change}, forms name text change → Derives .value text

/-- What a member changes about a record and about the names seen so far. -/
inductive Changes (record : Record σ) (forms : String → List Char → (σ → σ) → Prop) :
    String → List Char → σ × List String → σ × List String → Prop
  | field {found : Field σ} {text : List Char} {change : σ → σ} {state : σ} {seen : List String}
      (isField : found ∈ record.fields) (new : found.name ∉ seen)
      (gives : forms found.name text change) :
      Changes record forms found.name text (state, seen) (change state, found.name :: seen)
  | other {key : String} {text : List Char} {state : σ × List String}
      (unknown : ∀ field ∈ record.fields, field.name ≠ key) (value : Derives .value text) :
      Changes record forms key text state state

/-- Whether elements give the first of some fields, of which the others are not required. -/
inductive Gives (forms : String → List Char → (σ → σ) → Prop) :
    List (Field σ) → List Item → σ → σ → Prop
  | none {fields : List (Field σ)} (optional : ∀ field ∈ fields, field.required = false)
      (state : σ) : Gives forms fields [] state state
  | cons {field : Field σ} {fields : List (Field σ)} {content : Item} {contents : List Item}
      {change : σ → σ} {before after : σ} (gives : forms field.name content.text change)
      (more : Gives forms fields contents (change before) after) :
      Gives forms (field :: fields) (content :: contents) before after

/-- Which texts a record is read from. -/
inductive ReadFrom (record : Record σ) (forms : String → List Char → (σ → σ) → Prop) :
    List Char → σ → Prop
  | object {contents : List Item} {inner : List Char} {value : σ} {seen : List String}
      (items : Derives (.items .object true contents) inner)
      (fills : Fills (record.Changes forms) contents (record.initial, []) (value, seen))
      (complete : record.missing? seen = none) :
      ReadFrom record forms ('\x7b' :: (inner ++ ['\x7d'])) value
  | array {contents : List Item} {inner : List Char} {value : σ}
      (items : Derives (.items .list true contents) inner)
      (gives : Gives forms record.fields contents record.initial value) :
      ReadFrom record forms ('[' :: (inner ++ [']'])) value

variable {record : Record σ} {forms : String → List Char → (σ → σ) → Prop}

theorem ReadFrom.derives {text : List Char} {value : σ}
    (readFrom : record.ReadFrom forms text value) : Derives .value text := by
  cases readFrom with
  | object items fills complete => exact .object items
  | array items gives => exact .array items

/-! ### Objects -/

theorem takesMembers_member (hasForms : record.HasForms forms) :
    TakesMembers record.member (record.Changes forms) where
  derives := by
    intro key text before after change
    cases change with
    | field isField new gives => exact hasForms.derives gives
    | other unknown value => exact value
  reads := by
    intro key text before after gap behind rest change blank blankBehind ends
    cases change with
    | @field found text change state seen isField new gives =>
      have named :
          ∃ other, (record.fields.find? fun field => field.name = found.name) = some other :=
        Option.isSome_iff_exists.1 (by simpa using ⟨found, isField, rfl⟩)
      rcases named with ⟨other, isFound⟩
      have sameName : other.name = found.name := by simpa using List.find?_some isFound
      have recognizes := hasForms.recognizes other (List.mem_of_find?_eq_some isFound)
      rw [sameName] at recognizes
      have read := recognizes.reads gives behind rest blankBehind ends
      rw [List.append_assoc] at read
      simp [Record.member, isFound, new, colon_append blank, read, bind, Except.bind, pure,
        Except.pure]
    | other unknown value =>
      have absent : (record.fields.find? fun field => field.name = key) = none := by
        simpa using unknown
      have passed : skip (behind ++ text ++ rest) = .ok ((), rest) :=
        recognizes_skip.reads value behind rest blankBehind ends
      rw [List.append_assoc] at passed
      simp [Record.member, absent, colon_append blank, passed, bind, Except.bind, pure, Except.pure]
  read := by
    intro key before input after rest read
    rw [Record.member] at read
    split at read
    · rename_i found isFound
      have isField := List.mem_of_find?_eq_some isFound
      obtain rfl : found.name = key := by simpa using List.find?_some isFound
      split at read
      · simp at read
      · rename_i new
        rcases bind_eq_ok_iff.1 read with ⟨⟨⟨⟩, behindColon⟩, readColon, read⟩
        rcases bind_eq_ok_iff.1 read with ⟨⟨change, behindValue⟩, readValue, done⟩
        obtain ⟨rfl, rfl⟩ :
            (change before.1, found.name :: before.2) = after ∧ behindValue = rest := by
          simpa [pure, Except.pure] using done
        rcases exists_of_colon readColon with ⟨gap, blank, rfl⟩
        rcases (hasForms.recognizes found isField).read readValue with
          ⟨behind, text, blankBehind, gives, rfl⟩
        exact ⟨gap, behind, text, blank, blankBehind, .field isField new gives, by simp⟩
    · rename_i absent
      rcases bind_eq_ok_iff.1 read with ⟨⟨⟨⟩, behindColon⟩, readColon, read⟩
      rcases bind_eq_ok_iff.1 read with ⟨⟨⟨⟩, behindValue⟩, passed, done⟩
      obtain ⟨rfl, rfl⟩ : before = after ∧ behindValue = rest := by
        simpa [pure, Except.pure] using done
      rcases exists_of_colon readColon with ⟨gap, blank, rfl⟩
      rcases recognizes_skip.read passed with ⟨behind, text, blankBehind, value, rfl⟩
      exact ⟨gap, behind, text, blank, blankBehind, .other (by simpa using absent) value, by simp⟩

/-! ### Arrays -/

/-- Reads the elements of an array up to and with the closing bracket. -/
def ofArray (record : Record σ) (fields : List (Field σ)) (index : Nat) (state : σ) : Reader σ :=
  fun rest => do
    let (read, rest) ← record.ofElements fields index state rest
    let (_, rest) ← closeList rest
    return (read, rest)

theorem ofArray_cons (field : Field σ) (fields : List (Field σ)) (index : Nat) (state : σ)
    {text rest : List Char} (next : nextElement (index == 0) text = .ok (true, rest)) :
    record.ofArray (field :: fields) index state text =
      field.update rest >>= fun read =>
        record.ofArray fields (index + 1) (read.1 state) read.2 := by
  simp only [ofArray, ofElements, next]
  cases updated : field.update rest with
  | error fault => simp [updated, bind, Except.bind]
  | ok result => simp [updated, bind, Except.bind]

/-- At the closing bracket no field that is left may be required. -/
theorem ofArray_close_iff {fields : List (Field σ)} {gap behind rest : List Char} (blank : Gap gap)
    {index : Nat} {before after : σ} :
    record.ofArray fields index before (gap ++ ']' :: behind) = .ok (after, rest) ↔
      (∀ field ∈ fields, field.required = false) ∧ before = after ∧ behind = rest := by
  induction fields generalizing index gap with
  | nil => simp [ofArray, ofElements, closeList_gap blank, bind, Except.bind, pure, Except.pure]
  | cons field fields ih =>
    have others : record.ofArray fields (index + 1) before ([] ++ ']' :: behind) =
        .ok (after, rest) ↔ _ := ih gap_nil
    rw [List.nil_append] at others
    cases required : field.required with
    | true =>
      simp [ofArray, ofElements, nextElement_close blank, required, bind, Except.bind, throw,
        throwThe, MonadExceptOf.throw]
    | false =>
      have left : record.ofArray (field :: fields) index before (gap ++ ']' :: behind) =
          record.ofArray fields (index + 1) before (']' :: behind) := by
        simp [ofArray, ofElements, nextElement_close blank, required, bind, Except.bind]
      rw [left, others]
      simp [required]

theorem ofArray_of_gives (hasForms : record.HasForms forms) {fields : List (Field σ)}
    (among : fields ⊆ record.fields) {contents : List Item} {before after : σ}
    (gives : Gives forms fields contents before after) (index : Nat) {inner : List Char}
    (items : Derives (.items .list (index == 0) contents) inner) (rest : List Char) :
    record.ofArray fields index before (inner ++ ']' :: rest) = .ok (after, rest) := by
  induction gives generalizing index inner with
  | none optional state =>
    cases items with
    | none blank => exact (ofArray_close_iff blank).2 ⟨optional, rfl, rfl⟩
  | @cons field fields content contents change before after gives more ih =>
    have closing : EndsNumber (']' :: rest) := endsNumber_closing .list rest
    cases items with
    | cons separates item others =>
      have recognizes := hasForms.recognizes field (among List.mem_cons_self)
      have read := recognizes.reads gives [] _ gap_nil (endsNumber_items others closing)
      have begins := beginsItem_of_derives item
      cases item with
      | element value =>
        rw [List.nil_append] at read
        rw [List.append_assoc, List.append_assoc,
          ofArray_cons field fields index before (nextElement_separator separates begins _), read]
        exact ih (fun other member => among (List.mem_cons_of_mem field member)) (index + 1) others

theorem exists_of_ofArray (hasForms : record.HasForms forms) {fields : List (Field σ)}
    (among : fields ⊆ record.fields) {before after : σ} {index : Nat} {text rest : List Char}
    (read : record.ofArray fields index before text = .ok (after, rest)) :
    ∃ contents inner, Gives forms fields contents before after ∧
      Derives (.items .list (index == 0) contents) inner ∧ text = inner ++ ']' :: rest := by
  induction fields generalizing before index text with
  | nil =>
    rcases bind_eq_ok_iff.1 read with ⟨⟨state, behind⟩, done, read⟩
    obtain ⟨rfl, rfl⟩ : before = state ∧ text = behind := by simpa [ofElements] using done
    rcases bind_eq_ok_iff.1 read with ⟨⟨⟨⟩, behind⟩, closes, done⟩
    obtain ⟨rfl, rfl⟩ : before = after ∧ behind = rest := by simpa [pure, Except.pure] using done
    rcases exists_of_closeList closes with ⟨gap, blank, rfl⟩
    exact ⟨[], gap, .none (by simp) before, .none blank, rfl⟩
  | cons field fields ih =>
    rcases bind_eq_ok_iff.1 read with ⟨⟨state, behind⟩, elements, -⟩
    rcases bind_eq_ok_iff.1 elements with ⟨⟨present, start⟩, next, -⟩
    rcases nextElement_cases next with ⟨gap, behind, blank, rfl, closes, rfl⟩ |
      ⟨front, separates, rfl, rfl⟩
    · rw [closes] at read
      rcases (ofArray_close_iff blank).1 read with ⟨optional, rfl, rfl⟩
      exact ⟨[], gap, .none optional before, .none blank, by rw [closes]⟩
    · rw [ofArray_cons field fields index before next] at read
      rcases bind_eq_ok_iff.1 read with ⟨⟨change, behindValue⟩, readValue, readOthers⟩
      rcases (hasForms.recognizes field (among List.mem_cons_self)).read readValue with
        ⟨gap, written, blank, gives, rfl⟩
      rcases ih (fun other member => among (List.mem_cons_of_mem field member)) readOthers with
        ⟨contents, inner, more, others, rfl⟩
      have item : Derives (.item .list ⟨none, written⟩) written := .element (hasForms.derives gives)
      exact ⟨_, _, .cons gives more, .cons (separates.append_gap blank) item others, by simp⟩

/-! ### Records -/

/-- A record is read from exactly the objects and arrays that give it. -/
theorem recognizes_read (hasForms : record.HasForms forms) :
    Recognizes record.read (record.ReadFrom forms) where
  reads := by
    intro text value readFrom gap rest blank _
    cases readFrom with
    | object items fills complete =>
      have read := members_object (takesMembers_member hasForms) fills items rest
      simp only [List.append_assoc, List.cons_append, List.nil_append]
      rw [Record.read, skipGap_append blank rfl]
      simp only [ofMembers]
      rw [read]
      simp [complete, closeObject_brace, bind, Except.bind, pure, Except.pure]
    | @array contents inner value items gives =>
      have read : record.ofArray record.fields 0 record.initial (inner ++ ']' :: rest) =
          .ok (value, rest) :=
        ofArray_of_gives hasForms (fun _ member => member) gives 0 items rest
      rw [List.append_assoc, List.cons_append, List.append_assoc, Record.read,
        skipGap_append blank rfl]
      exact read
  read := by
    intro text value rest read
    rcases exists_gap text with ⟨gap, blank, whole⟩
    rw [Record.read] at read
    split at read
    · simp at read
    · rename_i behind found
      rw [found] at whole
      rcases bind_eq_ok_iff.1 read with ⟨⟨⟨state, seen⟩, behindMembers⟩, readMembers, finish⟩
      rcases exists_of_members (takesMembers_member hasForms) readMembers with
        ⟨contents, inner, last, items, fills, rfl, rfl⟩
      simp only at finish
      split at finish
      · simp at finish
      · rename_i complete
        rcases bind_eq_ok_iff.1 finish with ⟨⟨⟨⟩, behind⟩, closes, done⟩
        obtain ⟨rfl, rfl⟩ : state = value ∧ behind = rest := by simpa [pure, Except.pure] using done
        obtain rfl : last = behind := by
          simpa [closeObject_brace] using closes
        exact ⟨gap, _, blank, .object items fills complete, by simp [whole]⟩
    · rename_i behind found
      rw [found] at whole
      have readArray : record.ofArray record.fields 0 record.initial behind = .ok (value, rest) :=
        read
      rcases exists_of_ofArray hasForms (fun _ member => member) readArray with
        ⟨contents, inner, gives, items, rfl⟩
      exact ⟨gap, _, blank, .array items gives, by simp [whole]⟩
    · simp at read

/-! ### Components -/

/-- Whether a component of a record is what the texts of one field say. -/
structure Component {β : Type} (record : Record σ) (forms : String → List Char → (σ → σ) → Prop)
    (name : String) (form : List Char → β → Prop) (get : σ → β) : Prop where
  stores : ∀ {text change}, forms name text change →
    ∃ value, form text value ∧ ∀ state, get (change state) = value
  keeps : ∀ {other text change}, other ≠ name → forms other text change →
    ∀ state, get (change state) = get state
  isField : ∃ field ∈ record.fields, field.name = name

/-- Whether a value comes from the only text of a list, or stays as it is if there is none. -/
def Given {β : Type} (form : List Char → β → Prop) (texts : List (List Char)) (before after : β) :
    Prop :=
  (texts = [] ∧ after = before) ∨ ∃ text, texts = [text] ∧ form text after

theorem Given.eq {β : Type} {form : List Char → β → Prop} {texts : List (List Char)}
    {before after after' : β} (given : Given form texts before after)
    (given' : Given form texts before after')
    (unique : ∀ {text value value'}, form text value → form text value' → value = value') :
    after = after' := by
  rcases given with ⟨rfl, rfl⟩ | ⟨text, rfl, isForm⟩
  · rcases given' with ⟨-, rfl⟩ | ⟨text', some, -⟩
    · rfl
    · simp at some
  · rcases given' with ⟨none, -⟩ | ⟨text', same, isForm'⟩
    · simp at none
    · obtain rfl : text = text' := by simpa using same
      exact unique isForm isForm'

theorem given_of_fills {β : Type} {name : String} {form : List Char → β → Prop} {get : σ → β}
    (component : record.Component forms name form get) {contents : List Item}
    {before after : σ × List String} (fills : Fills (record.Changes forms) contents before after) :
    (name ∈ before.2 → textsOf name contents = []) ∧
      Given form (textsOf name contents) (get before.1) (get after.1) ∧
      (name ∈ after.2 ↔ name ∈ before.2 ∨ textsOf name contents ≠ []) := by
  induction fills with
  | nil state => simp [textsOf, Given]
  | @cons key text contents first next last head tail ih =>
    rcases ih with ⟨unseen, given, seen⟩
    cases head with
    | @field found _ change state earlier isField new gives =>
      by_cases same : found.name = name
      · subst same
        have none : textsOf found.name contents = [] := unseen (by simp)
        rcases component.stores gives with ⟨value, isForm, stored⟩
        rw [textsOf_cons_of_eq, none]
        refine ⟨fun early => absurd early new, .inr ⟨text, rfl, ?_⟩, by simp [seen]⟩
        rcases given with ⟨-, kept⟩ | ⟨other, some, -⟩
        · rwa [kept, stored]
        · simp [none] at some
      · have different : (Item.mk (some found.name) text).key ≠ some name := by simpa using same
        rw [textsOf_cons_of_ne different]
        rw [component.keeps same gives] at given
        simp only [List.mem_cons, Ne.symm same, false_or] at unseen seen
        exact ⟨unseen, given, seen⟩
    | other unknown value =>
      have different : (Item.mk (some key) text).key ≠ some name := by
        rcases component.isField with ⟨field, isField, rfl⟩
        simpa using Ne.symm (unknown field isField)
      rw [textsOf_cons_of_ne different]
      exact ⟨unseen, given, seen⟩

theorem spelled_of_fills {changes : String → List Char → σ → σ → Prop} {contents : List Item}
    {before after : σ} (fills : Fills changes contents before after) :
    ∀ item ∈ contents, item.key ≠ none := by
  induction fills with
  | nil state => simp
  | cons head tail ih => simpa using ih

/-- Members fill a record if their keys are spelled out and no field has more than one text. -/
theorem exists_fills {contents : List Item} (spelled : ∀ item ∈ contents, item.key ≠ none)
    (values : ∀ item ∈ contents, Derives .value item.text) {before : σ × List String}
    (once : ∀ field ∈ record.fields, textsOf field.name contents = [] ∨
      field.name ∉ before.2 ∧ ∃ text change, textsOf field.name contents = [text] ∧
        forms field.name text change) :
    ∃ after, Fills (record.Changes forms) contents before after := by
  induction contents generalizing before with
  | nil => exact ⟨before, .nil before⟩
  | cons item contents ih =>
    rcases item with ⟨key, text⟩
    simp only [List.forall_mem_cons] at spelled values
    cases key with
    | none => exact absurd rfl spelled.1
    | some key =>
      by_cases known : ∃ field ∈ record.fields, field.name = key
      · rcases known with ⟨found, isFound, rfl⟩
        rcases once found isFound with none | ⟨new, only, change, single, gives⟩
        · simp [textsOf_cons_of_eq] at none
        · rw [textsOf_cons_of_eq, List.cons.injEq] at single
          rcases single with ⟨rfl, none⟩
          have others : ∃ after, Fills (record.Changes forms) contents
              (change before.1, found.name :: before.2) after := by
            apply ih spelled.2 values.2
            intro field isField
            by_cases same : field.name = found.name
            · exact .inl (same ▸ none)
            · have different : (Item.mk (some found.name) text).key ≠ some field.name := by
                simpa using Ne.symm same
              have kept := once field isField
              rw [textsOf_cons_of_ne different] at kept
              simpa [same] using kept
          rcases others with ⟨after, fills⟩
          exact ⟨after, .cons (.field isFound new gives) fills⟩
      · have unknown : ∀ field ∈ record.fields, field.name ≠ key := by simpa using known
        have others : ∃ after, Fills (record.Changes forms) contents before after := by
          apply ih spelled.2 values.2
          intro field isField
          have different : (Item.mk (some key) text).key ≠ some field.name := by
            simpa using Ne.symm (unknown field isField)
          rw [← textsOf_cons_of_ne different]
          exact once field isField
        rcases others with ⟨after, fills⟩
        exact ⟨after, .cons (.other unknown values.1) fills⟩

end Record

end NodeLocale.Json
