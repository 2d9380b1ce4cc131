/-!
# Insertion-ordered maps

Every artifact of this library is an ordered mapping: nodes appear in the order in which they
were discovered, and fields in the order in which their class declares them. A map here is the
list of its entries together with the fact that no key occurs twice, so two maps are equal
exactly when they list the same entries in the same order.

Writing to a key that is already present changes its value and leaves its position alone;
writing to a new key appends it. `OrderedMap.ofList` therefore keeps the first position and the
last value of a key that a list repeats.
-/

namespace NodeLocale

universe u v w

namespace Entries

variable {α : Type u} {β : Type v} {γ : Type w} [DecidableEq α]

/-- Sets the value of a key in place, or appends the entry when the key is new. -/
def upsert (key : α) (value : β) : List (α × β) → List (α × β)
  | [] => [(key, value)]
  | entry :: rest =>
    if entry.1 = key then (key, value) :: rest else entry :: upsert key value rest

/-- The value stored under a key. -/
def find? (key : α) : List (α × β) → Option β
  | [] => none
  | entry :: rest => if entry.1 = key then some entry.2 else find? key rest

/-- Writes the entries of a list one after another. -/
def collect (entries : List (α × β)) : List (α × β) :=
  entries.foldl (fun written entry => upsert entry.1 entry.2 written) []

theorem keys_upsert_of_mem {key : α} {value : β} {entries : List (α × β)}
    (present : key ∈ entries.map Prod.fst) :
    (upsert key value entries).map Prod.fst = entries.map Prod.fst := by
  induction entries with
  | nil => simp at present
  | cons entry rest ih =>
    by_cases same : entry.1 = key
    · simp [upsert, same]
    · have later : key ∈ rest.map Prod.fst := by
        simpa [Ne.symm same] using present
      simp [upsert, same, ih later]

theorem keys_upsert_of_not_mem {key : α} {value : β} {entries : List (α × β)}
    (absent : key ∉ entries.map Prod.fst) :
    (upsert key value entries).map Prod.fst = entries.map Prod.fst ++ [key] := by
  induction entries with
  | nil => simp [upsert]
  | cons entry rest ih =>
    have different : entry.1 ≠ key := by
      intro same
      exact absent (by simp [same])
    have later : key ∉ rest.map Prod.fst := by
      intro present
      exact absent (List.mem_cons_of_mem _ present)
    simp [upsert, different, ih later]

theorem nodup_keys_upsert {key : α} {value : β} {entries : List (α × β)}
    (distinct : (entries.map Prod.fst).Nodup) :
    ((upsert key value entries).map Prod.fst).Nodup := by
  by_cases present : key ∈ entries.map Prod.fst
  · rw [keys_upsert_of_mem present]
    exact distinct
  · rw [keys_upsert_of_not_mem present]
    refine List.nodup_append.2 ⟨distinct, by simp, ?_⟩
    intro other otherMem candidate candidateMem same
    rw [List.mem_singleton] at candidateMem
    exact present (candidateMem ▸ same ▸ otherMem)

/-- Reading a key just written gives the value written; every other key is as before. -/
theorem find?_upsert (key other : α) (value : β) (entries : List (α × β)) :
    find? other (upsert key value entries) =
      if key = other then some value else find? other entries := by
  induction entries with
  | nil => simp [upsert, find?]
  | cons entry rest ih =>
    by_cases same : entry.1 = key
    · by_cases wanted : key = other <;> simp [upsert, find?, same, wanted]
    · by_cases first : entry.1 = other
      · have different : key ≠ other := fun h => same (first.trans h.symm)
        simp [upsert, find?, first, different, Ne.symm different]
      · simp [upsert, find?, same, first, ih]

theorem find?_eq_none_iff {key : α} {entries : List (α × β)} :
    find? key entries = none ↔ key ∉ entries.map Prod.fst := by
  induction entries with
  | nil => simp [find?]
  | cons entry rest ih =>
    by_cases same : entry.1 = key
    · simp [find?, same]
    · simp [find?, same, ih, Ne.symm same]

theorem find?_eq_some_iff {key : α} {value : β} {entries : List (α × β)}
    (distinct : (entries.map Prod.fst).Nodup) :
    find? key entries = some value ↔ (key, value) ∈ entries := by
  induction entries with
  | nil => simp [find?]
  | cons entry rest ih =>
    rw [List.map_cons, List.nodup_cons] at distinct
    by_cases same : entry.1 = key
    · have absent : (key, value) ∉ rest := by
        intro present
        exact distinct.1 (same ▸ List.mem_map_of_mem present)
      simp [find?, same, absent, Prod.ext_iff, eq_comm]
    · simp [find?, same, ih distinct.2, Prod.ext_iff, Ne.symm same]

theorem find?_map (transform : α → β → γ) (key : α) (entries : List (α × β)) :
    find? key (entries.map fun entry => (entry.1, transform entry.1 entry.2)) =
      (find? key entries).map (transform key) := by
  induction entries with
  | nil => rfl
  | cons entry rest ih =>
    by_cases same : entry.1 = key <;> simp [find?, same, ih]

theorem find?_filter_keys (keep : α → Bool) (key : α) (entries : List (α × β)) :
    find? key (entries.filter fun entry => keep entry.1) =
      if keep key then find? key entries else none := by
  induction entries with
  | nil => simp [find?]
  | cons entry rest ih =>
    by_cases same : entry.1 = key
    · by_cases kept : keep key <;> simp [find?, same, kept, ih]
    · by_cases kept : keep entry.1 <;> simp [find?, same, kept, ih]

/-- Writing a value that is there already changes nothing. -/
theorem upsert_of_find? {key : α} {value : β} {entries : List (α × β)}
    (found : find? key entries = some value) : upsert key value entries = entries := by
  induction entries with
  | nil => simp [find?] at found
  | cons entry rest ih =>
    by_cases same : entry.1 = key
    · obtain ⟨first, label⟩ := entry
      simp only at same
      subst same
      simp only [find?, if_pos, Option.some.injEq] at found
      simp [upsert, found]
    · simp only [find?, same, if_neg, not_false_eq_true] at found
      simp [upsert, same, ih found]

/-- Lists without repeated keys are equal if their keys and the values under them are. -/
theorem eq_of_keys_of_find? {left right : List (α × β)}
    (distinct : (left.map Prod.fst).Nodup)
    (sameKeys : left.map Prod.fst = right.map Prod.fst)
    (sameValues : ∀ key ∈ left.map Prod.fst, find? key left = find? key right) :
    left = right := by
  induction left generalizing right with
  | nil =>
    cases right with
    | nil => rfl
    | cons entry rest => simp at sameKeys
  | cons entry rest ih =>
    cases right with
    | nil => simp at sameKeys
    | cons other others =>
      rw [List.map_cons, List.map_cons, List.cons.injEq] at sameKeys
      rw [List.map_cons, List.nodup_cons] at distinct
      have sameValue : entry.2 = other.2 := by
        simpa [find?, sameKeys.1] using sameValues entry.1 (by simp)
      have sameRest : rest = others := by
        refine ih distinct.2 sameKeys.2 fun key present => ?_
        have different : entry.1 ≠ key := fun same => distinct.1 (same ▸ present)
        have later := sameValues key (List.mem_cons_of_mem _ present)
        simpa [find?, different, sameKeys.1 ▸ different] using later
      rw [sameRest, Prod.ext sameKeys.1 sameValue]

theorem nodup_keys_collect (entries : List (α × β)) :
    ((collect entries).map Prod.fst).Nodup := by
  suffices general : ∀ (remaining written : List (α × β)), (written.map Prod.fst).Nodup →
      ((remaining.foldl (fun done entry => upsert entry.1 entry.2 done) written).map
        Prod.fst).Nodup from general entries [] (by simp)
  intro remaining
  induction remaining with
  | nil => exact fun written distinct => distinct
  | cons entry rest ih => exact fun written distinct => ih _ (nodup_keys_upsert distinct)

/-- Appending distinct fresh entries one after another is concatenation. -/
theorem foldl_upsert_eq_append (remaining written : List (α × β))
    (distinct : ((written ++ remaining).map Prod.fst).Nodup) :
    remaining.foldl (fun done entry => upsert entry.1 entry.2 done) written =
      written ++ remaining := by
  induction remaining generalizing written with
  | nil => simp
  | cons entry rest ih =>
    have fresh : entry.1 ∉ written.map Prod.fst := by
      rw [List.map_append, List.nodup_append] at distinct
      intro present
      exact distinct.2.2 _ present _ (by simp) rfl
    have appended : upsert entry.1 entry.2 written = written ++ [entry] := by
      clear ih distinct
      induction written with
      | nil => simp [upsert]
      | cons head tail tailIh =>
        have different : head.1 ≠ entry.1 := fun same => fresh (by simp [same])
        have later : entry.1 ∉ tail.map Prod.fst :=
          fun present => fresh (List.mem_cons_of_mem _ present)
        simp [upsert, different, tailIh later]
    have regrouped : written ++ entry :: rest = (written ++ [entry]) ++ rest := by simp
    rw [List.foldl_cons, appended, regrouped]
    exact ih _ (regrouped ▸ distinct)

/-- A list without repeated keys is already in collected form. -/
theorem collect_of_nodup {entries : List (α × β)} (distinct : (entries.map Prod.fst).Nodup) :
    collect entries = entries := by
  simpa [collect] using foldl_upsert_eq_append entries [] (by simpa using distinct)

end Entries

/-- A mapping that remembers the order in which its keys were first written. -/
structure OrderedMap (α : Type u) (β : Type v) where
  entries : List (α × β)
  /-- No key occurs twice. -/
  distinct : (entries.map Prod.fst).Nodup
deriving DecidableEq

namespace OrderedMap

variable {α : Type u} {β : Type v} {γ : Type w}

/-- The map without entries. -/
def empty : OrderedMap α β := ⟨[], by simp⟩

instance : EmptyCollection (OrderedMap α β) := ⟨empty⟩

instance : Inhabited (OrderedMap α β) := ⟨empty⟩

@[ext]
theorem ext {left right : OrderedMap α β} (same : left.entries = right.entries) :
    left = right := by
  cases left
  cases right
  simp_all

def keys (map : OrderedMap α β) : List α := map.entries.map Prod.fst

/-- The values, in the order of their keys. -/
def values (map : OrderedMap α β) : List β := map.entries.map Prod.snd

def size (map : OrderedMap α β) : Nat := map.entries.length

def isEmpty (map : OrderedMap α β) : Bool := map.entries.isEmpty

/-- Maps every value, keeping keys and order. -/
def mapValues (transform : α → β → γ) (map : OrderedMap α β) : OrderedMap α γ where
  entries := map.entries.map fun entry => (entry.1, transform entry.1 entry.2)
  distinct := by
    have keysKept : (map.entries.map fun entry => (entry.1, transform entry.1 entry.2)).map
        Prod.fst = map.entries.map Prod.fst := by
      simp [Function.comp_def]
    exact keysKept ▸ map.distinct

/-- Keeps the entries that satisfy a test, in order. -/
def filter (keep : α → β → Bool) (map : OrderedMap α β) : OrderedMap α β where
  entries := map.entries.filter fun entry => keep entry.1 entry.2
  distinct := map.distinct.sublist (List.filter_sublist.map Prod.fst)

@[simp]
theorem keys_mapValues (transform : α → β → γ) (map : OrderedMap α β) :
    (map.mapValues transform).keys = map.keys := by
  simp [keys, mapValues, Function.comp_def]

variable [DecidableEq α]

/-- The value stored under a key. -/
def get? (map : OrderedMap α β) (key : α) : Option β := Entries.find? key map.entries

def contains (map : OrderedMap α β) (key : α) : Bool := (map.get? key).isSome

/-- Sets the value of a key in place, or appends the entry when the key is new. -/
def insert (map : OrderedMap α β) (key : α) (value : β) : OrderedMap α β where
  entries := Entries.upsert key value map.entries
  distinct := Entries.nodup_keys_upsert map.distinct

/-- Writes the entries of a list one after another. -/
def insertMany (map : OrderedMap α β) (added : List (α × β)) : OrderedMap α β :=
  added.foldl (fun written entry => written.insert entry.1 entry.2) map

/-- The map that results from writing the entries of a list one after another. -/
def ofList (entries : List (α × β)) : OrderedMap α β := ⟨Entries.collect entries,
  Entries.nodup_keys_collect entries⟩

theorem get?_insert (map : OrderedMap α β) (key other : α) (value : β) :
    (map.insert key value).get? other = if key = other then some value else map.get? other :=
  Entries.find?_upsert key other value map.entries

theorem keys_insert_of_mem {map : OrderedMap α β} {key : α} (present : key ∈ map.keys)
    (value : β) : (map.insert key value).keys = map.keys :=
  Entries.keys_upsert_of_mem present

theorem keys_insert_of_not_mem {map : OrderedMap α β} {key : α} (absent : key ∉ map.keys)
    (value : β) : (map.insert key value).keys = map.keys ++ [key] :=
  Entries.keys_upsert_of_not_mem absent

theorem mem_keys_iff {map : OrderedMap α β} {key : α} :
    key ∈ map.keys ↔ (map.get? key).isSome := by
  rw [← Option.ne_none_iff_isSome, get?, ne_eq, Entries.find?_eq_none_iff, keys,
    Decidable.not_not]

theorem mem_keys_iff_exists {map : OrderedMap α β} {key : α} :
    key ∈ map.keys ↔ ∃ value, map.get? key = some value := by
  rw [mem_keys_iff, Option.isSome_iff_exists]

theorem get?_eq_some_iff {map : OrderedMap α β} {key : α} {value : β} :
    map.get? key = some value ↔ (key, value) ∈ map.entries :=
  Entries.find?_eq_some_iff map.distinct

theorem get?_mapValues (transform : α → β → γ) (map : OrderedMap α β) (key : α) :
    (map.mapValues transform).get? key = (map.get? key).map (transform key) :=
  Entries.find?_map transform key map.entries

theorem get?_filter_keys (keep : α → Bool) (map : OrderedMap α β) (key : α) :
    (map.filter fun other _ => keep other).get? key =
      if keep key then map.get? key else none :=
  Entries.find?_filter_keys keep key map.entries

/-- Writing a value that is there already changes nothing. -/
theorem insert_of_get? {map : OrderedMap α β} {key : α} {value : β}
    (found : map.get? key = some value) : map.insert key value = map :=
  ext (Entries.upsert_of_find? found)

theorem mem_keys_insert {map : OrderedMap α β} {key other : α} {value : β} :
    other ∈ (map.insert key value).keys ↔ other = key ∨ other ∈ map.keys := by
  rw [mem_keys_iff, mem_keys_iff, get?_insert]
  by_cases same : key = other
  · simp [same]
  · simp [same, Ne.symm same]

/-- Entries with new keys are appended in their order. -/
theorem entries_insertMany {map : OrderedMap α β} {added : List (α × β)}
    (distinct : ((map.entries ++ added).map Prod.fst).Nodup) :
    (map.insertMany added).entries = map.entries ++ added := by
  have unfolded : ∀ (added : List (α × β)) (map : OrderedMap α β),
      (map.insertMany added).entries =
        added.foldl (fun done entry => Entries.upsert entry.1 entry.2 done) map.entries := by
    intro added
    induction added with
    | nil => exact fun map => rfl
    | cons entry rest ih => exact fun map => ih (map.insert entry.1 entry.2)
  rw [unfolded, Entries.foldl_upsert_eq_append added map.entries distinct]

/-- Two maps with the same keys in the same order and the same values are equal. -/
theorem eq_of_keys_of_get? {left right : OrderedMap α β} (sameKeys : left.keys = right.keys)
    (sameValues : ∀ key ∈ left.keys, left.get? key = right.get? key) : left = right :=
  ext (Entries.eq_of_keys_of_find? left.distinct sameKeys sameValues)

/-- Reading back the entries of a map rebuilds it. -/
theorem ofList_entries (map : OrderedMap α β) : ofList map.entries = map :=
  ext (Entries.collect_of_nodup map.distinct)

end OrderedMap

end NodeLocale
