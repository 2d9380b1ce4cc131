import NodeLocale.Json.Record
import NodeLocale.Proofs.Json.StringReading

/-!
# Indented objects are read back as they were written

The loop over the members of an object takes the text of the members back, one after another, if
what it does with each of them takes the text of that member back. Readers of maps, of records and
of values are instances of the same loop and share this argument.
-/

namespace NodeLocale.Json

namespace Reader

/-- Whether a number that stands before a text ends there. -/
def EndsNumber (rest : List Char) : Prop :=
  ∀ c ∈ rest.head?, isDigit c = false ∧ c ≠ '.' ∧ c ≠ 'e' ∧ c ≠ 'E'

/-- Whether a reader takes a text back as a value, also from behind white space. -/
def Reads {α : Type} (reader : Reader α) (text : List Char) (value : α) : Prop :=
  ∀ gap rest, (∀ c ∈ gap, isGap c = true) → EndsNumber rest →
    reader (gap ++ text ++ rest) = .ok (value, rest)

theorem reads_string (value : String) : Reads string (stringChars value) value := by
  intro gap rest blank _
  rw [string, stringChars, List.append_assoc, List.append_assoc, List.cons_append,
    skipGap_append blank (by decide)]
  exact text_escaped value rest

/-! ### Members -/

variable {σ : Type}

/-- Whether a member takes a state to another when it is read. -/
def ReadsMember (member : String → σ → Reader σ) (level : Nat) (entry : String × Json)
    (before after : σ) : Prop :=
  ∀ rest, EndsNumber rest →
    member entry.1 before (':' :: ' ' :: (prettyChars level entry.2 ++ rest)) = .ok (after, rest)

/-- Whether members take a state to another when they are read one after another. -/
inductive ReadsMembers (member : String → σ → Reader σ) (level : Nat) :
    List (String × Json) → σ → σ → Prop
  | nil (state : σ) : ReadsMembers member level [] state state
  | cons {entry : String × Json} {rest : List (String × Json)} {first next last : σ}
      (head : ReadsMember member level entry first next)
      (tail : ReadsMembers member level rest next last) :
      ReadsMembers member level (entry :: rest) first last

variable {member : String → σ → Reader σ} {level : Nat}

theorem isGap_of_mem_newline {c : Char} (inside : c ∈ newline level) : isGap c = true := by
  rcases List.mem_cons.1 inside with rfl | space
  · rfl
  · rw [(List.mem_replicate.1 space).2]
    rfl

theorem skipGap_newline {c : Char} (visible : isGap c = false) (rest : List Char) :
    skipGap (newline level ++ c :: rest) = c :: rest :=
  skipGap_append (fun _ inside => isGap_of_mem_newline inside) visible rest

theorem endsNumber_cons {c : Char} (noDigit : isDigit c = false)
    (noSign : c ≠ '.' ∧ c ≠ 'e' ∧ c ≠ 'E') (rest : List Char) : EndsNumber (c :: rest) := by
  intro head isHead
  obtain rfl : c = head := by simpa using isHead
  exact ⟨noDigit, noSign⟩

theorem endsNumber_of_blank {gap : List Char} (blank : ∀ c ∈ gap, isGap c = true) :
    EndsNumber gap := by
  cases gap with
  | nil => exact nofun
  | cons c gap =>
    have four := blank c List.mem_cons_self
    simp only [isGap, Bool.or_eq_true, decide_eq_true_eq] at four
    rcases four with ((rfl | rfl) | rfl) | rfl <;> exact endsNumber_cons rfl (by decide) _

/-- What a reader takes back it reads as a whole text, white space behind it or not. -/
theorem readText_of_reads {α : Type} {reader : Reader α} {text gap : List Char} {value : α}
    (reads : Reads reader text value) (blank : ∀ c ∈ gap, isGap c = true) :
    readText reader (String.ofList (text ++ gap)) = .ok value := by
  have read := reads [] gap nofun (endsNumber_of_blank blank)
  have skipped : skipGap (gap ++ []) = [] := List.dropWhile_append_of_pos blank
  rw [List.nil_append] at read
  rw [List.append_nil] at skipped
  rw [readText, readAll, String.toList_ofList, read]
  simp [skipped, bind, Except.bind, pure, Except.pure]

theorem Reads.readText {α : Type} {reader : Reader α} {text : List Char} {value : α}
    (reads : Reads reader text value) :
    Reader.readText reader (String.ofList text) = .ok value := by
  have read := readText_of_reads reads (nofun : ∀ c ∈ [], isGap c = true)
  rwa [List.append_nil] at read

/-- What follows a member is a comma or a line break. -/
theorem endsNumber_prettyEntries (entries : List (String × Json)) (outer : Nat)
    (rest : List Char) :
    EndsNumber (prettyEntries level entries ++ (newline outer ++ rest)) := by
  cases entries with
  | nil => exact endsNumber_cons rfl (by decide) _
  | cons entry entries => exact endsNumber_cons rfl (by decide) _

theorem members_close (fuel : Nat) (first : Bool) (state : σ) (outer : Nat)
    (rest : List Char) :
    members member (fuel + 1) first state (newline outer ++ '\x7d' :: rest) =
      .ok (state, '\x7d' :: rest) := by
  rw [members, skipGap_newline (by decide)]
  simp

/-- The first member stands right behind the opening brace. -/
theorem members_first (fuel : Nat) (state : σ) (key : String) (rest : List Char) :
    members member (fuel + 1) true state (newline level ++ (stringChars key ++ rest)) =
      (member key state rest).bind fun read => members member fuel false read.1 read.2 := by
  rw [stringChars, List.append_assoc, List.cons_append, members, skipGap_newline (by decide)]
  simp [text_escaped, bind, Except.bind]

/-- Any other member stands behind a comma. -/
theorem members_next (fuel : Nat) (state : σ) (key : String) (rest : List Char) :
    members member (fuel + 1) false state
        (',' :: (newline level ++ (stringChars key ++ rest))) =
      (member key state rest).bind fun read => members member fuel false read.1 read.2 := by
  rw [stringChars, List.append_assoc, List.cons_append, members,
    skipGap_of_not_isGap (by decide)]
  simp [skipGap_newline (c := '"') (by decide), text_escaped, bind, Except.bind]

/-- The members behind the first are taken back up to the closing brace. -/
theorem members_prettyEntries {entries : List (String × Json)} {before after : σ}
    (read : ReadsMembers member level entries before after) (outer : Nat) (rest : List Char)
    {fuel : Nat} (enough : entries.length < fuel) :
    members member fuel false before
      (prettyEntries level entries ++ (newline outer ++ '\x7d' :: rest)) =
        .ok (after, '\x7d' :: rest) := by
  induction read generalizing fuel with
  | nil state =>
    obtain ⟨fuel, rfl⟩ : ∃ more, fuel = more + 1 := Nat.exists_eq_add_one.2 enough
    exact members_close fuel false state outer rest
  | @cons entry entries first next last head tail ih =>
    obtain ⟨fuel, rfl⟩ : ∃ more, fuel = more + 1 :=
      Nat.exists_eq_add_one.2 (Nat.zero_lt_of_lt enough)
    have readHead := head (prettyEntries level entries ++ (newline outer ++ '\x7d' :: rest))
      (endsNumber_prettyEntries entries outer _)
    have readTail := @ih fuel (by simpa using enough)
    have written : prettyEntries level (entry :: entries) ++ (newline outer ++ '\x7d' :: rest) =
        ',' :: (newline level ++ (stringChars entry.1 ++ (':' :: ' ' ::
          (prettyChars level entry.2 ++
            (prettyEntries level entries ++ (newline outer ++ '\x7d' :: rest)))))) := by
      simp [prettyEntries]
    rw [written, members_next, readHead]
    exact readTail

theorem length_le_prettyEntries (level : Nat) (entries : List (String × Json)) :
    entries.length ≤ (prettyEntries level entries).length := by
  induction entries with
  | nil => exact Nat.le_refl 0
  | cons entry entries ih =>
    simp only [prettyEntries, List.length_cons, List.length_append]
    omega

/-- The members of an indented object are taken back up to the closing brace. -/
theorem members_pretty {entries : List (String × Json)} {before after : σ} {outer : Nat}
    (read : ReadsMembers member (outer + 1) entries before after) (rest : List Char) :
    ∃ body, prettyChars outer (.object entries) ++ rest = '\x7b' :: body ∧
      members member (body.length + 1) true before body = .ok (after, '\x7d' :: rest) := by
  cases read with
  | nil state =>
    refine ⟨'\x7d' :: rest, rfl, ?_⟩
    rw [members, skipGap_of_not_isGap (by decide)]
    simp
  | @cons entry entries _ next _ head tail =>
    let behind := prettyEntries (outer + 1) entries ++ (newline outer ++ '\x7d' :: rest)
    refine ⟨newline (outer + 1) ++ (stringChars entry.1 ++ (':' :: ' ' ::
      (prettyChars (outer + 1) entry.2 ++ behind))), ?_, ?_⟩
    · simp [prettyChars, behind]
    · have readHead := head behind (endsNumber_prettyEntries entries outer _)
      rw [members_first, readHead]
      refine members_prettyEntries tail outer rest ?_
      have enough := length_le_prettyEntries (outer + 1) entries
      simp only [List.length_append, List.length_cons, behind]
      omega

theorem closeObject_brace (rest : List Char) : closeObject ('\x7d' :: rest) = .ok ((), rest) := rfl

theorem colon_colon (rest : List Char) : colon (':' :: rest) = .ok ((), rest) := rfl

/-- A value is taken back from behind the blank that follows a colon. -/
theorem Reads.afterColon {α : Type} {reader : Reader α} {text : List Char} {value : α}
    (reads : Reads reader text value) {rest : List Char} (ends : EndsNumber rest) :
    reader (' ' :: (text ++ rest)) = .ok (value, rest) := by
  have read := reads [' '] rest (by simp [isGap]) ends
  rwa [List.append_assoc, List.singleton_append] at read

/-! ### Maps -/

/-- The members of a map are taken back by inserting them one after another. -/
theorem readsMembers_mapOf {α : Type} {item : Reader α} {toJson : α → Json}
    {entries : List (String × α)}
    (reads : ∀ entry ∈ entries, Reads item (prettyChars level (toJson entry.2)) entry.2)
    (map : OrderedMap String α) :
    ReadsMembers (insertMember item) level (entries.map fun entry => (entry.1, toJson entry.2)) map
      (map.insertMany entries) := by
  induction entries generalizing map with
  | nil => exact .nil map
  | cons entry entries ih =>
    have readTail := ih (fun other member => reads other (List.mem_cons_of_mem entry member))
      (map.insert entry.1 entry.2)
    refine .cons ?_ readTail
    intro rest ends
    simp [insertMember, colon_colon, (reads entry List.mem_cons_self).afterColon ends, bind,
      Except.bind, pure, Except.pure]

/-- A map is taken back from its indented object if its values are. -/
theorem reads_mapOf {α : Type} {item : Reader α} {toJson : α → Json} {map : OrderedMap String α}
    {outer : Nat}
    (reads : ∀ entry ∈ map.entries,
      Reads item (prettyChars (outer + 1) (toJson entry.2)) entry.2) :
    Reads (mapOf item)
      (prettyChars outer (.object (map.entries.map fun entry => (entry.1, toJson entry.2))))
      map := by
  intro gap rest blank _
  obtain ⟨body, written, read⟩ := members_pretty (readsMembers_mapOf reads ∅) rest
  have whole : (∅ : OrderedMap String α).insertMany map.entries = map := by
    apply OrderedMap.ext
    rw [OrderedMap.entries_insertMany (by exact map.distinct)]
    rfl
  rw [List.append_assoc, written, mapOf, skipGap_append blank (by decide)]
  simp [read, whole, closeObject_brace, bind, Except.bind, pure, Except.pure]

/-! ### Records -/

/-- A member that a record knows is taken back by its field. -/
theorem readsMember_record {record : Record σ} {found : Field σ} {key : String} {value : Json}
    {seen : List String} {change : σ → σ}
    (known : (record.fields.find? fun field => field.name = key) = some found)
    (new : key ∉ seen) (reads : Reads found.update (prettyChars level value) change) (state : σ) :
    ReadsMember record.member level (key, value) (state, seen) (change state, key :: seen) := by
  intro rest ends
  rw [Record.member, known]
  simp [new, colon_colon, reads.afterColon ends, bind, Except.bind, pure, Except.pure]

theorem reads_field {α : Type} {item : Reader α} (name : String) {store : α → σ → σ}
    {text : List Char} {value : α} (reads : Reads item text value) :
    Reads (field name item store).update text (store value) := by
  intro gap rest blank ends
  simp only [field, reads gap rest blank ends, bind, Except.bind, pure, Except.pure]

theorem reads_requiredField {α : Type} {item : Reader α} (name : String) {store : α → σ → σ}
    {text : List Char} {value : α} (reads : Reads item text value) :
    Reads (requiredField name item store).update text (store value) :=
  reads_field name reads

/-- A record is taken back from an indented object that has all required members. -/
theorem reads_record {record : Record σ} {entries : List (String × Json)} {outer : Nat}
    {value : σ} {seen : List String}
    (read : ReadsMembers record.member (outer + 1) entries (record.initial, []) (value, seen))
    (complete : record.missing? seen = none) :
    Reads record.read (prettyChars outer (.object entries)) value := by
  intro gap rest blank _
  obtain ⟨body, written, readBody⟩ := members_pretty read rest
  rw [List.append_assoc, written, Record.read, skipGap_append blank (by decide)]
  simp [Record.ofMembers, readBody, complete, closeObject_brace, bind, Except.bind, pure,
    Except.pure]

end Reader

end NodeLocale.Json
