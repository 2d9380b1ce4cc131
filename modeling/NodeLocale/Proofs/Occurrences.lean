import NodeLocale.Proofs.Basic

/-!
# First and last occurrences

A map that is collected from a list holds under a key what the last entry with this key says, and
its keys stand in the order of their first entries. Which item of a list is the last one with a
property, and in which order keys have their first entries, is said here of the list alone.
-/

namespace NodeLocale

universe u v w

variable {α : Type u} {β : Type v} {γ : Type w}

/-! ### Last occurrences -/

/-- Whether an item is the last one of a list that has a property. -/
def IsLast (property : α → Prop) (item : α) (items : List α) : Prop :=
  ∃ front back, items = front ++ item :: back ∧ property item ∧ ∀ later ∈ back, ¬property later

namespace IsLast

variable {property : α → Prop} {item last : α} {items : List α}

theorem holds (isLast : IsLast property item items) : property item := by
  rcases isLast with ⟨front, back, rfl, holds, none⟩
  exact holds

theorem mem (isLast : IsLast property item items) : item ∈ items := by
  rcases isLast with ⟨front, back, rfl, holds, none⟩
  simp

theorem not_nil : ¬IsLast property item [] := by
  rintro ⟨front, back, same, -⟩
  simp at same

theorem cons (isLast : IsLast property item items) (first : α) :
    IsLast property item (first :: items) := by
  rcases isLast with ⟨front, back, rfl, holds, none⟩
  exact ⟨first :: front, back, rfl, holds, none⟩

theorem head (holds : property item) (none : ∀ later ∈ items, ¬property later) :
    IsLast property item (item :: items) :=
  ⟨[], items, rfl, holds, none⟩

theorem concat_iff : IsLast property item (items ++ [last]) ↔
    property last ∧ item = last ∨ ¬property last ∧ IsLast property item items := by
  constructor
  · rintro ⟨front, back, same, holds, none⟩
    -- Either the item itself is the one at the end, or there is one more behind it.
    rcases List.eq_nil_or_concat' back with rfl | ⟨rest, final, rfl⟩
    · rcases List.append_inj_right' same rfl with ⟨⟩
      exact .inl ⟨holds, rfl⟩
    · have split : items ++ [last] = (front ++ item :: rest) ++ [final] := by
        rw [same]
        simp
      rcases List.append_inj' split rfl with ⟨rfl, ⟨⟩⟩
      refine .inr ⟨none last (by simp), front, rest, rfl, holds, ?_⟩
      intro later member
      exact none later (List.mem_append_left _ member)
  · rintro (⟨holds, rfl⟩ | ⟨fails, front, back, rfl, holds, none⟩)
    · exact ⟨items, [], rfl, holds, by simp⟩
    · refine ⟨front, back ++ [last], by simp, holds, ?_⟩
      intro later member
      rcases List.mem_append.1 member with member | member
      · exact none later member
      · rw [List.mem_singleton.1 member]
        exact fails

theorem unique {other : α} (first : IsLast property item items)
    (second : IsLast property other items) : item = other := by
  induction items using List.reverseRecOn with
  | nil => exact absurd first not_nil
  | append_singleton front last ih =>
    rw [concat_iff] at first second
    rcases first with ⟨holds, rfl⟩ | ⟨fails, first⟩
    · rcases second with ⟨-, rfl⟩ | ⟨fails, -⟩
      · rfl
      · exact absurd holds fails
    · rcases second with ⟨holds, -⟩ | ⟨-, second⟩
      · exact absurd holds fails
      · exact ih first second

theorem exists_iff : (∃ item, IsLast property item items) ↔ ∃ item ∈ items, property item := by
  constructor
  · rintro ⟨item, isLast⟩
    exact ⟨item, isLast.mem, isLast.holds⟩
  · induction items using List.reverseRecOn with
    | nil => simp
    | append_singleton front last ih =>
      rintro ⟨item, member, holds⟩
      by_cases ends : property last
      · exact ⟨last, concat_iff.2 (.inl ⟨ends, rfl⟩)⟩
      · have earlier : item ∈ front := by
          rcases List.mem_append.1 member with member | member
          · exact member
          · rw [List.mem_singleton.1 member] at holds
            exact absurd holds ends
        rcases ih ⟨item, earlier, holds⟩ with ⟨found, isLast⟩
        exact ⟨found, concat_iff.2 (.inr ⟨ends, isLast⟩)⟩

theorem congr {other : α → Prop} (same : ∀ item, property item ↔ other item) :
    IsLast property item items ↔ IsLast other item items := by
  rw [show property = other from funext fun item => propext (same item)]

theorem filterMap_iff {transform : α → Option β} {property : β → Prop} {result : β} :
    IsLast property result (items.filterMap transform) ↔
      ∃ item, IsLast (fun item => ∃ result, transform item = some result ∧ property result) item
        items ∧ transform item = some result := by
  induction items using List.reverseRecOn with
  | nil => simp [not_nil]
  | append_singleton front last ih =>
    rw [List.filterMap_append]
    cases transformed : transform last with
    | none =>
      rw [List.filterMap_cons_none transformed, List.filterMap_nil, List.append_nil, ih]
      simp [concat_iff, transformed]
    | some final =>
      rw [List.filterMap_cons_some transformed, List.filterMap_nil, concat_iff, ih]
      by_cases holds : property final
      · simp [concat_iff, transformed, holds, eq_comm]
      · simp [concat_iff, transformed, holds]

end IsLast

/-! ### First occurrences -/

/-- Whether an entry of the first key whose value has a property stands before all those of the
second. -/
def Precedes (property : β → Prop) (entries : List (α × β)) (first second : α) : Prop :=
  ∃ front value back, entries = front ++ (first, value) :: back ∧ property value ∧
    ∀ other, (second, other) ∈ front → ¬property other

theorem Precedes.concat {property : β → Prop} {entries : List (α × β)} {entry : α × β}
    {first second : α} (precedes : Precedes property entries first second) :
    Precedes property (entries ++ [entry]) first second := by
  rcases precedes with ⟨front, value, back, rfl, holds, none⟩
  exact ⟨front, value, back ++ [entry], by simp, holds, none⟩

/-- Whether a list consists of the keys of the entries whose values have a property, each once and
in the order of the first such entries. -/
structure FirstsOf (property : β → Prop) (entries : List (α × β)) (keys : List α) : Prop where
  nodup : keys.Nodup
  mem_iff : ∀ key, key ∈ keys ↔ ∃ value, (key, value) ∈ entries ∧ property value
  ordered : keys.Pairwise (Precedes property entries)

namespace FirstsOf

variable {property : β → Prop} {entries : List (α × β)} {entry : α × β} {keys : List α}

theorem congr {other : β → Prop} (same : ∀ value, property value ↔ other value) :
    FirstsOf property entries keys ↔ FirstsOf other entries keys := by
  rw [show property = other from funext fun value => propext (same value)]

theorem nil : FirstsOf property ([] : List (α × β)) [] :=
  ⟨.nil, by simp, .nil⟩

theorem skip (firsts : FirstsOf property entries keys) (fails : ¬property entry.2) :
    FirstsOf property (entries ++ [entry]) keys := by
  refine ⟨firsts.nodup, ?_, firsts.ordered.imp Precedes.concat⟩
  intro key
  rw [firsts.mem_iff]
  apply exists_congr
  intro value
  constructor
  · rintro ⟨member, holds⟩
    exact ⟨List.mem_append_left _ member, holds⟩
  · rintro ⟨member, holds⟩
    rcases List.mem_append.1 member with member | member
    · exact ⟨member, holds⟩
    · rw [← List.mem_singleton.1 member] at fails
      exact absurd holds fails

theorem again (firsts : FirstsOf property entries keys) (present : entry.1 ∈ keys) :
    FirstsOf property (entries ++ [entry]) keys := by
  refine ⟨firsts.nodup, ?_, firsts.ordered.imp Precedes.concat⟩
  intro key
  constructor
  · intro listed
    rcases (firsts.mem_iff key).1 listed with ⟨value, member, holds⟩
    exact ⟨value, List.mem_append_left _ member, holds⟩
  · rintro ⟨value, member, holds⟩
    rcases List.mem_append.1 member with member | member
    · exact (firsts.mem_iff key).2 ⟨value, member, holds⟩
    · rw [← List.mem_singleton.1 member] at present
      exact present

theorem append (firsts : FirstsOf property entries keys) (absent : entry.1 ∉ keys)
    (holds : property entry.2) : FirstsOf property (entries ++ [entry]) (keys ++ [entry.1]) := by
  refine ⟨?_, ?_, ?_⟩
  · rw [List.nodup_append]
    refine ⟨firsts.nodup, by simp, ?_⟩
    intro key listed other ends same
    rw [← List.mem_singleton.1 ends, ← same] at absent
    exact absent listed
  · intro key
    rw [List.mem_append, firsts.mem_iff, List.mem_singleton]
    constructor
    · rintro (⟨value, member, valid⟩ | rfl)
      · exact ⟨value, List.mem_append_left _ member, valid⟩
      · exact ⟨entry.2, by simp, holds⟩
    · rintro ⟨value, member, valid⟩
      rcases List.mem_append.1 member with member | member
      · exact .inl ⟨value, member, valid⟩
      · exact .inr (congrArg Prod.fst (List.mem_singleton.1 member))
  · rw [List.pairwise_append]
    refine ⟨firsts.ordered.imp Precedes.concat, by simp, ?_⟩
    -- The new key has no entry before the one at the end, and every older key has.
    intro key listed other ends
    rw [List.mem_singleton] at ends
    subst ends
    rcases (firsts.mem_iff key).1 listed with ⟨value, member, valid⟩
    rcases List.mem_iff_append.1 member with ⟨front, back, rfl⟩
    refine ⟨front, value, back ++ [entry], by simp, valid, ?_⟩
    intro other member valid
    exact absent ((firsts.mem_iff entry.1).2 ⟨other, List.mem_append_left _ member, valid⟩)

end FirstsOf

/-! ### Collected maps -/

variable [DecidableEq α]

theorem Entries.find?_append (key : α) (left right : List (α × β)) :
    find? key (left ++ right) = (find? key left).or (find? key right) := by
  induction left with
  | nil => rfl
  | cons entry rest ih =>
    by_cases same : entry.1 = key
    · simp [find?, same]
    · simp [find?, same, ih]

namespace OrderedMap

/-- A collected map holds what the last entry with a key says. -/
theorem get?_ofList_iff {key : α} {value : β} {entries : List (α × β)} :
    (ofList entries).get? key = some value ↔
      IsLast (fun entry => entry.1 = key) (key, value) entries := by
  induction entries using List.reverseRecOn with
  | nil => simp [IsLast.not_nil, ofList, get?, Entries.collect, Entries.find?]
  | append_singleton front entry ih =>
    rw [ofList_concat, get?_insert, IsLast.concat_iff, ← ih]
    by_cases same : entry.1 = key
    · simp [same, Prod.ext_iff, eq_comm]
    · simp [same]

theorem get?_ofList_eq_none_iff {key : α} {entries : List (α × β)} :
    (ofList entries).get? key = none ↔ ∀ value, (key, value) ∉ entries := by
  rw [get?, ofList, Entries.find?_eq_none_iff, Entries.mem_keys_collect]
  simp

section

variable {transform : γ → Option (α × β)} {property : γ → Prop} {items : List γ} {key : α}
  (given : ∀ item, property item ↔ ∃ entry, transform item = some entry ∧ entry.1 = key)

include given

theorem get?_ofList_filterMap_iff {value : β} :
    (ofList (items.filterMap transform)).get? key = some value ↔
      ∃ item, IsLast property item items ∧ transform item = some (key, value) := by
  rw [get?_ofList_iff, IsLast.filterMap_iff]
  apply exists_congr
  intro item
  rw [IsLast.congr given]

theorem get?_ofList_filterMap_eq_none_iff :
    (ofList (items.filterMap transform)).get? key = none ↔ ∀ item ∈ items, ¬property item := by
  rw [get?_ofList_eq_none_iff]
  constructor
  · intro absent item member holds
    rcases (given item).1 holds with ⟨⟨own, value⟩, gives, rfl⟩
    exact absent value (List.mem_filterMap.2 ⟨item, member, gives⟩)
  · intro fails value member
    rcases List.mem_filterMap.1 member with ⟨item, listed, gives⟩
    exact fails item listed ((given item).2 ⟨(key, value), gives, rfl⟩)

end

/-- What is written is a map again: it adds its own values to those that were written before. -/
theorem get?_ofList_append (key : α) (entries : List (α × β)) (added : OrderedMap α β) :
    (ofList (entries ++ added.entries)).get? key =
      (added.get? key).or ((ofList entries).get? key) := by
  have own : Entries.find? key added.entries.reverse = added.get? key := by
    rw [← Entries.find?_collect, Entries.collect_of_nodup added.distinct, get?]
  rw [get?, ofList, Entries.find?_collect, List.reverse_append, Entries.find?_append, own,
    ← Entries.find?_collect]
  rfl

/-- Of the entries that pass a test, the keys are collected in the order in which they first
occur. -/
theorem firstsOf_keys_ofList (test : β → Bool) (label : α × β → γ) (entries : List (α × β)) :
    FirstsOf (fun value => test value = true) entries
      (ofList ((entries.filter fun entry => test entry.2).map
        fun entry => (entry.1, label entry))).keys := by
  induction entries using List.reverseRecOn with
  | nil => exact .nil
  | append_singleton front entry ih =>
    rw [List.filter_append, List.map_append]
    by_cases passes : test entry.2 = true
    · rw [List.filter_cons, if_pos passes, List.filter_nil, List.map_singleton, ofList_concat]
      by_cases present : entry.1 ∈ (ofList ((front.filter fun entry => test entry.2).map
          fun entry => (entry.1, label entry))).keys
      · rw [keys_insert_of_mem present]
        exact ih.again present
      · rw [keys_insert_of_not_mem present]
        exact ih.append present passes
    · rw [List.filter_cons, if_neg passes, List.filter_nil, List.map_nil, List.append_nil]
      exact ih.skip passes

end OrderedMap

end NodeLocale
