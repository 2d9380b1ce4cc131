import Mathlib.Data.List.Forall2
import NodeLocale.Json.Printer
import NodeLocale.Proofs.Json.Values

/-!
# Written values are texts of these values

Values are written with or without white space, but always in the same order: what is in brackets
stands between commas, and a key stands in front of a colon. A value that fits the limits of the
reader is denoted by what is written for it, with or without white space and at any level.
-/

namespace NodeLocale.Json

open Reader

/-! ### What can be written -/

/-- Whether a value is nested at most so deep, has only integers that are kept exact and has no
object with a repeated key. -/
inductive Fits : Nat → Json → Prop
  | null {nesting : Nat} : Fits nesting .null
  | bool {nesting : Nat} (value : Bool) : Fits nesting (.bool value)
  | integer {nesting : Nat} {value : Int} (inRange : (JsonNumber.integer value).InRange) :
      Fits nesting (.number (.integer value))
  | string {nesting : Nat} (value : String) : Fits nesting (.string value)
  | array {nesting : Nat} {items : List Json} (inside : ∀ item ∈ items, Fits nesting item) :
      Fits (nesting + 1) (.array items)
  | object {nesting : Nat} {entries : List (String × Json)}
      (distinct : (entries.map Prod.fst).Nodup) (inside : ∀ entry ∈ entries, Fits nesting entry.2) :
      Fits (nesting + 1) (.object entries)

/-! ### Strings and integers -/

theorem stringText_stringChars (value : String) : StringText (stringChars value) value := by
  rcases exists_of_stringBody (stringBody_flatMap_escapeChar value.toList []) with
    ⟨body, spells, written⟩
  refine ⟨body, ?_, spells⟩
  rw [stringChars, List.cons_append, written]

theorem keyBody_flatMap_escapeChar (key : String) :
    KeyBody (key.toList.flatMap escapeChar) (some key) := by
  rcases stringText_stringChars key with ⟨body, written, spells⟩
  obtain rfl : key.toList.flatMap escapeChar = body := by simpa [stringChars] using written
  exact spells

theorem number_text {value : Int} (inRange : (JsonNumber.integer value).InRange) :
    Reader.number (JsonNumber.integer value).text.toList = .ok (.integer value, []) := by
  cases value with
  | ofNat magnitude =>
    have small : (magnitude : Int) < 0x10000000000000000 := inRange.2
    have written : (JsonNumber.integer (.ofNat magnitude)).text.toList =
        Nat.toDigits 10 magnitude := Nat.toList_repr
    rw [written, ← List.append_nil (Nat.toDigits 10 magnitude)]
    exact number_of_numeral (numeral_toDigits magnitude) (by omega) endsNumber_nil
  | negSucc rest =>
    have small : -0x8000000000000000 ≤ Int.negSucc rest := inRange.1
    have written : (JsonNumber.integer (.negSucc rest)).text.toList =
        '-' :: (Nat.toDigits 10 (rest + 1) ++ []) := by
      change ("-" ++ Nat.repr (rest + 1)).toList = _
      rw [String.toList_append, Nat.toList_repr, List.append_nil]
      rfl
    rw [written]
    exact number_of_negative (numeral_toDigits (rest + 1)) (Nat.succ_pos rest) (by omega)
      endsNumber_nil

/-! ### Items between commas -/

section Listed

variable {α : Type} {kind : Enclosing} {gap behind : List Char}

/-- The texts of items with commas between them, a gap in front of each and one behind the last. -/
def listed (text : α → List Char) (gap behind : List Char) : List α → List Char
  | [] => []
  | first :: rest =>
    gap ++ (text first ++ (rest.flatMap (fun other => ',' :: (gap ++ text other)) ++ behind))

variable {text : α → List Char} {content : α → Item}

theorem derives_behind_commas (blank : Gap gap) (blankBehind : Gap behind) {list : List α}
    (each : ∀ item ∈ list, Derives (.item kind (content item)) (text item)) :
    Derives (.items kind false (list.map content))
      (list.flatMap (fun other => ',' :: (gap ++ text other)) ++ behind) := by
  induction list with
  | nil => exact .none blankBehind
  | cons item list ih =>
    have more := ih fun other member => each other (List.mem_cons_of_mem item member)
    have derived : Derives (.items kind false ((item :: list).map content)) _ :=
      .cons (.comma gap_nil blank) (each item List.mem_cons_self) more
    simpa using derived

theorem derives_listed (blank : Gap gap) (blankBehind : Gap behind) {list : List α}
    (each : ∀ item ∈ list, Derives (.item kind (content item)) (text item)) :
    Derives (.items kind true (list.map content)) (listed text gap behind list) := by
  cases list with
  | nil => exact .none gap_nil
  | cons first rest =>
    apply Derives.cons (.opening blank) (each first List.mem_cons_self)
    exact derives_behind_commas blank blankBehind fun other member =>
      each other (List.mem_cons_of_mem first member)

end Listed

/-! ### White space -/

/-- The text of a member, told the text of its value. -/
def memberChars (gap : List Char) (write : Json → List Char) (entry : String × Json) : List Char :=
  stringChars entry.1 ++ ':' :: (gap ++ write entry.2)

theorem derives_memberChars {gap : List Char} (blank : Gap gap) {write : Json → List Char}
    {entry : String × Json} (value : Derives .value (write entry.2)) :
    Derives (.item .object ⟨some entry.1, write entry.2⟩) (memberChars gap write entry) := by
  have derived := Derives.member (keyBody_flatMap_escapeChar entry.1) gap_nil blank value
  simpa [memberChars, stringChars] using derived

/-- A way to write values at a level, which differs from others in the white space only. -/
structure Spacing where
  write : Nat → Json → List Char
  /-- What stands in front of the items of a level, and in front of the bracket that closes it. -/
  gap : Nat → List Char
  blank : ∀ level, Gap (gap level)
  /-- What stands behind a colon. -/
  colonGap : List Char
  blankColon : Gap colonGap
  null : ∀ level, write level .null = ['n', 'u', 'l', 'l']
  bool : ∀ level value, write level (.bool value) = (toString value).toList
  number : ∀ level value, write level (.number value) = value.text.toList
  string : ∀ level value, write level (.string value) = stringChars value
  array : ∀ level items, write level (.array items) =
    '[' :: (listed (write (level + 1)) (gap (level + 1)) (gap level) items ++ [']'])
  object : ∀ level entries, write level (.object entries) =
    '\x7b' :: (listed (memberChars colonGap (write (level + 1))) (gap (level + 1)) (gap level)
      entries ++ ['\x7d'])

/-- A value is denoted by what is written for it. -/
theorem Spacing.denotes (spacing : Spacing) {nesting : Nat} {value : Json}
    (fits : Fits nesting value) (level : Nat) :
    Denotes nesting (spacing.write level value) value := by
  induction fits generalizing level with
  | null =>
    rw [spacing.null]
    exact DenotesScalar.null.denotes _
  | bool value =>
    rw [spacing.bool]
    cases value with
    | true => exact DenotesScalar.true.denotes _
    | false => exact DenotesScalar.false.denotes _
  | integer inRange =>
    rw [spacing.number]
    exact (DenotesScalar.number (number_text inRange)).denotes _
  | string value =>
    rw [spacing.string]
    exact (DenotesScalar.string (stringText_stringChars value)).denotes _
  | @array nesting items inside ih =>
    rw [spacing.array]
    have each : ∀ item ∈ items, Denotes nesting (spacing.write (level + 1) item) item :=
      fun item member => ih item member (level + 1)
    have derived : Derives (.items .list true
        (items.map fun item => ⟨none, spacing.write (level + 1) item⟩)) _ :=
      derives_listed (spacing.blank (level + 1)) (spacing.blank level) fun item member =>
        .element (each item member).derives
    refine .inr (.array derived ?_)
    rw [List.forall₂_map_left_iff, List.forall₂_same]
    exact each
  | @object nesting entries distinct inside ih =>
    rw [spacing.object]
    have each : ∀ entry ∈ entries, Denotes nesting (spacing.write (level + 1) entry.2) entry.2 :=
      fun entry member => ih entry member (level + 1)
    have derived : Derives (.items .object true
        (entries.map fun entry => ⟨some entry.1, spacing.write (level + 1) entry.2⟩)) _ :=
      derives_listed (spacing.blank (level + 1)) (spacing.blank level) fun entry member =>
        derives_memberChars spacing.blankColon (each entry member).derives
    have entriesDenoted : List.Forall₂ (IsEntry (Denotes nesting))
        (entries.map fun entry => ⟨some entry.1, spacing.write (level + 1) entry.2⟩) entries := by
      rw [List.forall₂_map_left_iff, List.forall₂_same]
      exact fun entry member => ⟨rfl, each entry member⟩
    have denoted := DenotesBracketed.object derived entriesDenoted
    rw [Entries.collect_of_nodup distinct] at denoted
    exact .inr denoted

/-! ### Compact and indented texts -/

theorem compactItems_eq (first : Json) (rest : List Json) :
    compactItems (first :: rest) =
      compactChars first ++ rest.flatMap fun other => ',' :: compactChars other := by
  induction rest generalizing first with
  | nil => simp [compactItems]
  | cons other rest ih => simp [compactItems, ih]

theorem compactEntries_eq (first : String × Json) (rest : List (String × Json)) :
    compactEntries (first :: rest) = memberChars [] compactChars first ++
      rest.flatMap fun other => ',' :: memberChars [] compactChars other := by
  induction rest generalizing first with
  | nil => simp [compactEntries, memberChars]
  | cons other rest ih => simp [compactEntries, ih, memberChars]

theorem prettyItems_eq (level : Nat) (items : List Json) :
    prettyItems level items =
      items.flatMap fun other => ',' :: (newline level ++ prettyChars level other) := by
  induction items with
  | nil => simp [prettyItems]
  | cons item items ih => simp [prettyItems, ih]

theorem prettyEntries_eq (level : Nat) (entries : List (String × Json)) :
    prettyEntries level entries = entries.flatMap fun other =>
      ',' :: (newline level ++ memberChars [' '] (prettyChars level) other) := by
  induction entries with
  | nil => simp [prettyEntries]
  | cons entry entries ih => simp [prettyEntries, ih, memberChars]

/-- Without any white space. -/
def compactSpacing : Spacing where
  write _ := compactChars
  gap _ := []
  blank _ := gap_nil
  colonGap := []
  blankColon := gap_nil
  null _ := rfl
  bool _ value := by cases value <;> rfl
  number _ value := rfl
  string _ value := rfl
  array _ items := by
    cases items with
    | nil => rfl
    | cons first rest => simp [compactChars, listed, compactItems_eq]
  object _ entries := by
    cases entries with
    | nil => rfl
    | cons first rest => simp [compactChars, listed, compactEntries_eq]

/-- With a line for every item. -/
def prettySpacing : Spacing where
  write := prettyChars
  gap := newline
  blank _ := fun _ inside => isGap_of_mem_newline inside
  colonGap := [' ']
  blankColon := by simp [Gap, isGap]
  null _ := rfl
  bool _ value := by cases value <;> rfl
  number _ value := rfl
  string _ value := rfl
  array _ items := by
    cases items with
    | nil => rfl
    | cons first rest => simp [prettyChars, listed, prettyItems_eq]
  object _ entries := by
    cases entries with
    | nil => rfl
    | cons first rest => simp [prettyChars, listed, prettyEntries_eq, memberChars]

end NodeLocale.Json
