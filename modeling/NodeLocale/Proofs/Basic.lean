import Mathlib.Data.List.Induction
import Mathlib.Data.List.Perm.Subperm
import NodeLocale.OrderedMap

/-!
# Computations, numbers in names and collected entries

What is said here is about no part of the program in particular. A computation of several steps
comes to a result exactly if each of its steps does. Files of batches and outputs without names are
told apart by a number in their names: different numbers are written differently, so such names are
different, too. A list of entries is collected into a map by writing them one after another; the map
has the keys of the list, each with the value that was written last, and it has as many entries as
the list exactly if no key was written twice.
-/

namespace NodeLocale

/-! ### Computations that may fail -/

/-- A computation fails in its first step or in what follows. -/
theorem bind_eq_error_iff {ε α β : Type} {first : Except ε α} {next : α → Except ε β} {error : ε} :
    (first >>= next) = .error error ↔
      first = .error error ∨ ∃ value, first = .ok value ∧ next value = .error error := by
  cases first <;> simp [bind, Except.bind]

theorem bind_eq_ok_iff {ε α β : Type} {first : Except ε α} {next : α → Except ε β} {result : β} :
    (first >>= next) = .ok result ↔ ∃ value, first = .ok value ∧ next value = .ok result := by
  cases first <;> simp [bind, Except.bind]

theorem exists_eq_ok {ε α : Type} {result : Except ε α} (isOk : result.toOption.isSome = true) :
    ∃ value, result = .ok value := by
  cases result with
  | error error => simp [Except.toOption] at isOk
  | ok value => exact ⟨value, rfl⟩

/-! ### Numbered names -/

namespace Text

theorem toString_injective {left right : Nat} (same : toString left = toString right) :
    left = right := by
  have digits : Nat.toDigits 10 left = Nat.toDigits 10 right := by
    rw [← Nat.toList_repr, ← Nat.toList_repr]
    exact congrArg String.toList same
  rw [← Nat.ofDigitChars_ten_toDigits (n := left), digits, Nat.ofDigitChars_ten_toDigits]

theorem numbered_injective {front back : String} {left right : Nat}
    (same : front ++ toString left ++ back = front ++ toString right ++ back) : left = right := by
  apply toString_injective
  apply String.ext
  have letters := congrArg String.toList same
  simpa using letters

end Text

/-! ### Collecting entries -/

universe u v

variable {α : Type u} {β : Type v} [DecidableEq α]

namespace Entries

theorem collect_concat (entries : List (α × β)) (entry : α × β) :
    collect (entries ++ [entry]) = upsert entry.1 entry.2 (collect entries) := by
  simp [collect]

/-- The last value that was written under a key counts. -/
theorem find?_collect (key : α) (entries : List (α × β)) :
    find? key (collect entries) = find? key entries.reverse := by
  induction entries using List.reverseRecOn with
  | nil => rfl
  | append_singleton front entry ih =>
    rw [collect_concat, find?_upsert, ih, List.reverse_concat, find?]

theorem mem_keys_collect {key : α} {entries : List (α × β)} :
    key ∈ (collect entries).map Prod.fst ↔ key ∈ entries.map Prod.fst := by
  have absent : key ∉ (collect entries).map Prod.fst ↔ key ∉ entries.map Prod.fst := by
    rw [← find?_eq_none_iff, find?_collect, find?_eq_none_iff, List.map_reverse, List.mem_reverse]
  exact not_iff_not.1 absent

theorem mem_of_find? {key : α} {value : β} {entries : List (α × β)}
    (found : find? key entries = some value) : (key, value) ∈ entries := by
  induction entries with
  | nil => simp [find?] at found
  | cons entry rest ih =>
    rw [find?] at found
    split at found
    · rename_i same
      rw [← same, ← Option.some.inj found]
      exact List.mem_cons_self
    · exact List.mem_cons_of_mem _ (ih found)

theorem subperm_keys_collect (entries : List (α × β)) :
    ((collect entries).map Prod.fst).Subperm (entries.map Prod.fst) := by
  apply List.subperm_of_subset (nodup_keys_collect entries)
  intro key present
  exact mem_keys_collect.1 present

theorem length_collect_le (entries : List (α × β)) :
    (collect entries).length ≤ entries.length := by
  simpa using (subperm_keys_collect entries).length_le

theorem length_collect_eq_iff {entries : List (α × β)} :
    (collect entries).length = entries.length ↔ (entries.map Prod.fst).Nodup := by
  constructor
  · intro same
    have part := subperm_keys_collect entries
    have all : ((collect entries).map Prod.fst).Perm (entries.map Prod.fst) := by
      apply part.perm_of_length_le
      simp [same]
    exact all.nodup_iff.1 (nodup_keys_collect entries)
  · intro distinct
    rw [collect_of_nodup distinct]

end Entries

namespace OrderedMap

theorem get?_empty (key : α) : (∅ : OrderedMap α β).get? key = none := rfl

theorem ofList_concat (entries : List (α × β)) (entry : α × β) :
    ofList (entries ++ [entry]) = (ofList entries).insert entry.1 entry.2 :=
  ext (Entries.collect_concat entries entry)

theorem ofList_append (entries added : List (α × β)) :
    ofList (entries ++ added) = (ofList entries).insertMany added := by
  induction added using List.reverseRecOn with
  | nil => simp [insertMany]
  | append_singleton front entry ih =>
    rw [← List.append_assoc, ofList_concat, ih]
    simp [insertMany]

theorem mem_keys_ofList {key : α} {entries : List (α × β)} :
    key ∈ (ofList entries).keys ↔ key ∈ entries.map Prod.fst :=
  Entries.mem_keys_collect

theorem mem_keys_insertMany {key : α} {map : OrderedMap α β} {added : List (α × β)} :
    key ∈ (map.insertMany added).keys ↔ key ∈ map.keys ∨ key ∈ added.map Prod.fst := by
  have written : map.insertMany added = ofList (map.entries ++ added) := by
    rw [ofList_append, ofList_entries]
  rw [written, mem_keys_ofList, List.map_append, List.mem_append, keys]

/-- Whatever is read from a collected map was written. -/
theorem mem_of_get?_ofList {key : α} {value : β} {entries : List (α × β)}
    (found : (ofList entries).get? key = some value) : (key, value) ∈ entries := by
  rw [get?, ofList, Entries.find?_collect] at found
  exact List.mem_reverse.1 (Entries.mem_of_find? found)

/-- A value is read back if it is the only one that was written under its key. -/
theorem get?_ofList_of_unique {key : α} {value : β} {entries : List (α × β)}
    (written : (key, value) ∈ entries) (only : ∀ other, (key, other) ∈ entries → other = value) :
    (ofList entries).get? key = some value := by
  have present : key ∈ (ofList entries).keys := mem_keys_ofList.2 (List.mem_map_of_mem written)
  rcases mem_keys_iff_exists.1 present with ⟨other, found⟩
  rw [found, only other (mem_of_get?_ofList found)]

theorem size_ofList_le (entries : List (α × β)) : (ofList entries).size ≤ entries.length :=
  Entries.length_collect_le entries

theorem size_ofList_eq_iff {entries : List (α × β)} :
    (ofList entries).size = entries.length ↔ (entries.map Prod.fst).Nodup :=
  Entries.length_collect_eq_iff

end OrderedMap

end NodeLocale
