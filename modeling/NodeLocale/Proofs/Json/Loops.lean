import Mathlib.Data.List.Forall2
import NodeLocale.Json.Record
import NodeLocale.Proofs.Json.Skipping

/-!
# Loops over elements and members

The loop over the members of an object takes what stands between the braces if what it does with a
member takes the colon and the value of that member, and it stops at the closing brace; the loop
over the elements of an array does the same with elements. Both go wrong at the first item that is
not taken, so what they have taken is derived from the grammar item by item.
-/

namespace NodeLocale.Json

open Reader

/-- White space behind a separator belongs to it. -/
theorem Separator.append_gap {first : Bool} {front gap : List Char}
    (separates : Separator first front) (blank : Gap gap) : Separator first (front ++ gap) := by
  cases separates with
  | opening blankFront => exact .opening (gap_append blankFront blank)
  | comma blankFront blankAfter =>
    rw [List.append_assoc]
    exact .comma blankFront (gap_append blankAfter blank)

/-- Every item takes up at least one character. -/
theorem length_contents_le {kind : Enclosing} {first : Bool} {contents : List Item}
    {text : List Char} (items : Derives (.items kind first contents) text) :
    contents.length ≤ text.length := by
  induction contents generalizing first text with
  | nil => exact Nat.zero_le _
  | cons content contents ih =>
    cases items with
    | cons separates item more =>
      have bound := ih more
      rcases beginsItem_of_derives item with ⟨c, rest, rfl, -⟩
      simp only [List.length_cons, List.length_append]
      omega

theorem length_text_le {kind : Enclosing} {first : Bool} {contents : List Item} {text : List Char}
    (items : Derives (.items kind first contents) text) :
    ∀ item ∈ contents, item.text.length ≤ text.length := by
  induction contents generalizing first text with
  | nil => simp
  | cons content contents ih =>
    cases items with
    | cons separates item more =>
      have bound := ih more
      refine List.forall_mem_cons.2 ⟨?_, ?_⟩
      · cases item <;> simp only [List.length_append, List.length_cons] <;> omega
      · intro other member
        have small := bound other member
        simp only [List.length_append]
        omega

theorem derives_of_mem_contents {kind : Enclosing} {first : Bool} {contents : List Item}
    {text : List Char} (items : Derives (.items kind first contents) text) :
    ∀ item ∈ contents, Derives .value item.text := by
  induction contents generalizing first text with
  | nil => simp
  | cons content contents ih =>
    cases items with
    | cons separates item more =>
      refine List.forall_mem_cons.2 ⟨?_, ih more⟩
      cases item with
      | element value => exact value
      | member isKey blank blankBehind value => exact value

namespace Reader

variable {σ : Type}

/-! ### Members -/

/-- Whether what is done with a member takes exactly the values that say how the state changes. -/
structure TakesMembers (member : String → σ → Reader σ)
    (changes : String → List Char → σ → σ → Prop) : Prop where
  derives : ∀ {key text before after}, changes key text before after → Derives .value text
  reads : ∀ {key text before after gap behind rest}, changes key text before after → Gap gap →
    Gap behind → EndsNumber rest →
      member key before (gap ++ ':' :: (behind ++ (text ++ rest))) = .ok (after, rest)
  read : ∀ {key before input after rest}, member key before input = .ok (after, rest) →
    ∃ gap behind text, Gap gap ∧ Gap behind ∧ changes key text before after ∧
      input = gap ++ ':' :: (behind ++ (text ++ rest))

/-- Whether members with the keys and values of a list take a state to another, one by one. -/
inductive Fills (changes : String → List Char → σ → σ → Prop) : List Item → σ → σ → Prop
  | nil (state : σ) : Fills changes [] state state
  | cons {key : String} {text : List Char} {contents : List Item} {first next last : σ}
      (head : changes key text first next) (tail : Fills changes contents next last) :
      Fills changes (⟨some key, text⟩ :: contents) first last

variable {member : String → σ → Reader σ} {changes : String → List Char → σ → σ → Prop}

/-- Reads a member whose opening quote is gone, and the members behind it. -/
def membersFrom (member : String → σ → Reader σ) (fuel : Nat) (state : σ) : Reader σ :=
  fun start => do
    let (key, rest) ← text start
    let (state, rest) ← member key state rest
    members member fuel false state rest

theorem members_close_gap {gap : List Char} (blank : Gap gap) (fuel : Nat) (first : Bool)
    (state : σ) (rest : List Char) :
    members member (fuel + 1) first state (gap ++ '\x7d' :: rest) =
      .ok (state, '\x7d' :: rest) := by
  rw [members, skipGap_append blank rfl]
  rfl

theorem members_separator {first : Bool} {front : List Char} (separates : Separator first front)
    (fuel : Nat) (state : σ) (rest : List Char) :
    members member (fuel + 1) first state (front ++ '"' :: rest) =
      membersFrom member fuel state rest := by
  cases separates with
  | opening blank =>
    rw [members, skipGap_append blank rfl]
    rfl
  | comma blank blankAfter =>
    rw [List.append_assoc, List.cons_append, members, skipGap_append blank rfl]
    simp [skipGap_append blankAfter (c := '"') rfl, membersFrom]

/-- The loop over members ends well at the closing brace or goes on with a member. -/
theorem members_cases {fuel : Nat} {first : Bool} {before after : σ} {text rest : List Char}
    (read : members member (fuel + 1) first before text = .ok (after, rest)) :
    (∃ gap behind, Gap gap ∧ before = after ∧ rest = '\x7d' :: behind ∧ text = gap ++ rest) ∨
    ∃ front start, Separator first front ∧ text = front ++ '"' :: start ∧
      membersFrom member fuel before start = .ok (after, rest) := by
  rcases exists_gap text with ⟨gap, blank, whole⟩
  simp only [members] at read
  split at read
  · simp at read
  · rename_i c behind found
    rw [found] at whole
    split at read
    · rename_i closes
      obtain ⟨rfl, rfl⟩ : before = after ∧ c :: behind = rest := by simpa using read
      exact .inl ⟨gap, behind, blank, rfl, by rw [closes], whole⟩
    · right
      cases first with
      | true =>
        by_cases quote : c = '"'
        · rw [if_pos rfl, if_pos quote] at read
          exact ⟨gap, behind, .opening blank, by rw [whole, quote], read⟩
        · simp [quote] at read
      | false =>
        by_cases comma : c = ','
        · rcases exists_gap behind with ⟨after, blankAfter, wholeAfter⟩
          rw [if_neg (by simp), if_pos comma] at read
          split at read
          · simp at read
          · rename_i d start foundAfter
            rw [foundAfter] at wholeAfter
            split at read
            · rename_i quote
              refine ⟨gap ++ ',' :: after, start, .comma blank blankAfter, ?_, read⟩
              simp [whole, comma, wholeAfter, quote]
            · split at read <;> simp at read
        · simp [comma] at read

/-- The head of the members is read in front of the rest of them. -/
theorem membersFrom_cons (takes : TakesMembers member changes) {key : String}
    {body gap behind text rest : List Char} {before next : σ} (spells : Spells body key.toList)
    (change : changes key text before next) (blank : Gap gap) (blankBehind : Gap behind)
    (ends : EndsNumber rest) (fuel : Nat) :
    membersFrom member fuel before
        (body ++ '"' :: (gap ++ ':' :: (behind ++ (text ++ rest)))) =
      members member fuel false next rest := by
  simp [membersFrom, text_of_spells spells, takes.reads change blank blankBehind ends, bind,
    Except.bind]

theorem members_of_fills (takes : TakesMembers member changes) {contents : List Item}
    {before after : σ} (fills : Fills changes contents before after) {first : Bool}
    {inner : List Char} (items : Derives (.items .object first contents) inner) (rest : List Char)
    {fuel : Nat} (enough : contents.length < fuel) :
    members member fuel first before (inner ++ '\x7d' :: rest) = .ok (after, '\x7d' :: rest) := by
  induction fills generalizing first inner fuel with
  | nil state =>
    obtain ⟨fuel, rfl⟩ : ∃ more, fuel = more + 1 := Nat.exists_eq_add_one.2 enough
    cases items with
    | none blank => exact members_close_gap blank fuel first state rest
  | @cons key text contents before next last head tail ih =>
    obtain ⟨fuel, rfl⟩ : ∃ more, fuel = more + 1 :=
      Nat.exists_eq_add_one.2 (Nat.zero_lt_of_lt enough)
    have enough : contents.length < fuel := by simpa using enough
    have closing : EndsNumber ('\x7d' :: rest) := endsNumber_closing .object rest
    cases items with
    | cons separates item more =>
      cases item with
      | member isKey blankBefore blankBehind value =>
        simp only [List.append_assoc, List.cons_append]
        rw [members_separator separates, membersFrom_cons takes isKey head blankBefore blankBehind
          (endsNumber_items more closing)]
        exact ih more enough

/-- What is left of the text is fuel enough for the members in it. -/
theorem members_object (takes : TakesMembers member changes) {contents : List Item}
    {before after : σ} (fills : Fills changes contents before after) {inner : List Char}
    (items : Derives (.items .object true contents) inner) (rest : List Char) :
    members member ((inner ++ '\x7d' :: rest).length + 1) true before (inner ++ '\x7d' :: rest) =
      .ok (after, '\x7d' :: rest) := by
  have bound := length_contents_le items
  apply members_of_fills takes fills items rest
  simp only [List.length_append]
  omega

/-- What the loop over members takes up to the closing brace. -/
theorem exists_of_members (takes : TakesMembers member changes) {fuel : Nat} {first : Bool}
    {before after : σ} {text rest : List Char}
    (read : members member fuel first before text = .ok (after, rest)) :
    ∃ contents inner behind, Derives (.items .object first contents) inner ∧
      Fills changes contents before after ∧ rest = '\x7d' :: behind ∧ text = inner ++ rest := by
  induction fuel generalizing first before text with
  | zero => simp [members] at read
  | succ fuel ih =>
    rcases members_cases read with ⟨gap, behind, blank, rfl, closes, whole⟩ |
      ⟨front, start, separates, rfl, readFrom⟩
    · exact ⟨[], gap, behind, .none blank, .nil before, closes, whole⟩
    · rcases bind_eq_ok_iff.1 readFrom with ⟨⟨key, behindKey⟩, readKey, readMember⟩
      rcases bind_eq_ok_iff.1 readMember with ⟨⟨next, behindMember⟩, readMember, readMore⟩
      rcases exists_of_text readKey with ⟨body, spells, rfl⟩
      rcases takes.read readMember with ⟨gap, after, value, blank, blankAfter, change, rfl⟩
      rcases ih readMore with ⟨contents, inner, behind, more, fills, closes, rfl⟩
      have isKey : KeyBody body (some key) := spells
      have item : Derives (.item .object ⟨some key, value⟩) _ :=
        .member isKey blank blankAfter (takes.derives change)
      exact ⟨_, _, behind, .cons separates item more, .cons change fills, closes, by simp⟩

/-! ### Elements -/

section Elements

open Record

variable {α : Type} {element : Reader α} {form : List Char → α → Prop} {text rest : List Char}

theorem nextElement_close {gap : List Char} (blank : Gap gap) (first : Bool) (rest : List Char) :
    nextElement first (gap ++ ']' :: rest) = .ok (false, ']' :: rest) := by
  rw [nextElement, skipGap_append blank rfl]
  rfl

theorem nextElement_separator {first : Bool} {front : List Char} (separates : Separator first front)
    (begins : BeginsItem text) (rest : List Char) :
    nextElement first (front ++ (text ++ rest)) = .ok (true, text ++ rest) := by
  rcases begins with ⟨c, more, rfl, begins⟩
  cases separates with
  | opening blank =>
    rw [List.cons_append, nextElement, skipGap_append blank begins.1]
    simp [begins.2.2.1]
  | comma blank blankAfter =>
    rw [List.append_assoc, List.cons_append, List.cons_append, nextElement,
      skipGap_append blank rfl]
    simp [skipGap_append blankAfter begins.1, begins.2.2.1]

/-- The next element is behind a separator, unless the closing bracket is next. -/
theorem nextElement_cases {first present : Bool}
    (read : nextElement first text = .ok (present, rest)) :
    (∃ gap behind, Gap gap ∧ present = false ∧ rest = ']' :: behind ∧ text = gap ++ rest) ∨
    ∃ front, Separator first front ∧ present = true ∧ text = front ++ rest := by
  rcases exists_gap text with ⟨gap, blank, whole⟩
  rw [nextElement] at read
  split at read
  · simp at read
  · rename_i c behind found
    rw [found] at whole
    by_cases closes : c = ']'
    · obtain ⟨rfl, rfl⟩ : false = present ∧ c :: behind = rest := by simpa [closes] using read
      exact .inl ⟨gap, behind, blank, rfl, by rw [closes], whole⟩
    · right
      rw [if_neg closes] at read
      cases first with
      | true =>
        obtain ⟨rfl, rfl⟩ : true = present ∧ c :: behind = rest := by simpa using read
        exact ⟨gap, .opening blank, rfl, whole⟩
      | false =>
        by_cases comma : c = ','
        · rcases exists_gap behind with ⟨after, blankAfter, wholeAfter⟩
          rw [if_neg (by simp), if_pos comma] at read
          split at read
          · simp at read
          · rename_i d start foundAfter
            rw [foundAfter] at wholeAfter
            split at read
            · simp at read
            · obtain ⟨rfl, rfl⟩ : true = present ∧ d :: start = rest := by simpa using read
              exact ⟨gap ++ ',' :: after, .comma blank blankAfter, rfl,
                by simp [whole, comma, wholeAfter]⟩
        · simp [comma] at read

theorem elements_eq (fuel : Nat) (first : Bool) (text : List Char) :
    elements element (fuel + 1) first text = do
      let (present, rest) ← nextElement first text
      if present then
        let (head, rest) ← element rest
        let (tail, rest) ← elements element fuel false rest
        return (head :: tail, rest)
      else return ([], rest) := by
  rw [elements, nextElement]
  cases skipGap text with
  | nil => rfl
  | cons c behind =>
    by_cases closes : c = ']'
    · simp [closes, bind, Except.bind, pure, Except.pure]
    · cases first with
      | true => simp [closes, bind, Except.bind, pure, Except.pure]
      | false =>
        by_cases comma : c = ','
        · cases found : skipGap behind with
          | nil => simp [comma, found, bind, Except.bind]
          | cons d start =>
            by_cases trailing : d = ']' <;>
              simp [comma, found, trailing, bind, Except.bind, pure, Except.pure]
        · simp [closes, comma, bind, Except.bind]

/-- The elements of an array are taken one after another. -/
theorem elements_of_forall₂ (recognizes : Recognizes element form) {contents : List Item}
    {values : List α}
    (taken : List.Forall₂ (fun item value => form item.text value) contents values) {first : Bool}
    {inner : List Char} (items : Derives (.items .list first contents) inner) (rest : List Char)
    {fuel : Nat} (enough : contents.length < fuel) :
    elements element fuel first (inner ++ ']' :: rest) = .ok (values, ']' :: rest) := by
  induction taken generalizing first inner fuel with
  | nil =>
    obtain ⟨fuel, rfl⟩ : ∃ more, fuel = more + 1 := Nat.exists_eq_add_one.2 enough
    cases items with
    | none blank =>
      rw [elements_eq, nextElement_close blank]
      rfl
  | cons head tail ih =>
    obtain ⟨fuel, rfl⟩ : ∃ more, fuel = more + 1 :=
      Nat.exists_eq_add_one.2 (Nat.zero_lt_of_lt enough)
    have closing : EndsNumber (']' :: rest) := endsNumber_closing .list rest
    cases items with
    | cons separates item more =>
      have read := recognizes.reads head [] _ gap_nil (endsNumber_items more closing)
      have readMore := ih more (by simpa using enough)
      have begins := beginsItem_of_derives item
      cases item with
      | element value =>
        rw [List.nil_append] at read
        rw [List.append_assoc, List.append_assoc, elements_eq,
          nextElement_separator separates begins]
        simp [read, readMore, bind, Except.bind, pure, Except.pure]

theorem elements_array (recognizes : Recognizes element form) {contents : List Item}
    {values : List α}
    (taken : List.Forall₂ (fun item value => form item.text value) contents values)
    {inner : List Char} (items : Derives (.items .list true contents) inner) (rest : List Char) :
    elements element ((inner ++ ']' :: rest).length + 1) true (inner ++ ']' :: rest) =
      .ok (values, ']' :: rest) := by
  have bound := length_contents_le items
  apply elements_of_forall₂ recognizes taken items rest
  simp only [List.length_append]
  omega

theorem exists_of_elements (recognizes : Recognizes element form)
    (derives : ∀ {text value}, form text value → Derives .value text) {fuel : Nat} {first : Bool}
    {values : List α} (read : elements element fuel first text = .ok (values, rest)) :
    ∃ contents inner behind, Derives (.items .list first contents) inner ∧
      List.Forall₂ (fun item value => form item.text value) contents values ∧
      rest = ']' :: behind ∧ text = inner ++ rest := by
  induction fuel generalizing first values text with
  | zero => simp [elements] at read
  | succ fuel ih =>
    rw [elements_eq] at read
    rcases bind_eq_ok_iff.1 read with ⟨⟨present, start⟩, next, read⟩
    rcases nextElement_cases next with ⟨gap, behind, blank, rfl, closes, whole⟩ |
      ⟨front, separates, rfl, whole⟩
    · obtain ⟨rfl, rfl⟩ : [] = values ∧ start = rest := by
        simpa [pure, Except.pure] using read
      exact ⟨[], gap, behind, .none blank, .nil, closes, whole⟩
    · rcases bind_eq_ok_iff.1 read with ⟨⟨head, behindHead⟩, readHead, read⟩
      rcases bind_eq_ok_iff.1 read with ⟨⟨tail, behindTail⟩, readTail, done⟩
      obtain ⟨rfl, rfl⟩ : head :: tail = values ∧ behindTail = rest := by
        simpa [pure, Except.pure] using done
      rcases recognizes.read readHead with ⟨gap, written, blank, isForm, rfl⟩
      rcases ih readTail with ⟨contents, inner, behind, more, taken, closes, rfl⟩
      have item : Derives (.item .list ⟨none, written⟩) written := .element (derives isForm)
      exact ⟨_, _, behind, .cons (separates.append_gap blank) item more, .cons isForm taken, closes,
        by simp [whole]⟩

end Elements

/-! ### Closing brackets -/

theorem closeList_bracket (rest : List Char) : closeList (']' :: rest) = .ok ((), rest) := rfl

theorem closeList_gap {gap : List Char} (blank : Gap gap) (rest : List Char) :
    closeList (gap ++ ']' :: rest) = .ok ((), rest) := by
  rw [closeList, skipGap_append blank rfl]
  rfl

theorem exists_of_closeList {text rest : List Char} (read : closeList text = .ok ((), rest)) :
    ∃ gap, Gap gap ∧ text = gap ++ ']' :: rest := by
  rcases exists_gap text with ⟨gap, blank, whole⟩
  rw [closeList] at read
  split at read
  · simp at read
  · rename_i behind found
    obtain rfl : behind = rest := by simpa using read
    exact ⟨gap, blank, by rw [← found]; exact whole⟩
  · split at read <;> simp at read
  · simp at read

end Reader

end NodeLocale.Json
