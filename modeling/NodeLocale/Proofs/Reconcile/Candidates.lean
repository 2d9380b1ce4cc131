import NodeLocale.Proofs.Reconcile.Links

/-!
# What a Han key stands for

A Han key is looked up among the keys of its source section: those that are linked to it are its
candidates or, if there are none, those that are linked to it but for case. It stands for a source
key if that is its only candidate. The order in which the links were found plays no part in this,
only which links there are.
-/

namespace NodeLocale

namespace KeyResolution

variable {table other : NameTable} {sourceKeys : List String} {key target : String}

/-- The source keys that a Han key may stand for. -/
def candidates (table : NameTable) (sourceKeys : List String) (key : String) : List String :=
  match exactMatches sourceKeys (table.englishFor key) with
  | [] => caseMatches sourceKeys (table.englishFor key)
  | linked => linked

/-- Whether a Han key is taken for a source key. -/
def StandsFor (table : NameTable) (sourceKeys : List String) (key target : String) : Prop :=
  Text.containsHan key = true ∧ candidates table sourceKeys key = [target]

theorem exactMatches_congr {left right : List String} (same : ∀ name, name ∈ left ↔ name ∈ right) :
    exactMatches sourceKeys left = exactMatches sourceKeys right := by
  simp [exactMatches, same]

theorem caseMatches_congr {left right : List String} (same : ∀ name, name ∈ left ↔ name ∈ right) :
    caseMatches sourceKeys left = caseMatches sourceKeys right := by
  simp [caseMatches, same]

/-- Tables with the same links to a Han key give it the same candidates. -/
theorem candidates_congr
    (same : ∀ english, ⟨english, key⟩ ∈ table.links ↔ ⟨english, key⟩ ∈ other.links) :
    candidates table sourceKeys key = candidates other sourceKeys key := by
  have names : ∀ english, english ∈ table.englishFor key ↔ english ∈ other.englishFor key := by
    intro english
    rw [NameTable.mem_englishFor, NameTable.mem_englishFor, same]
  rw [candidates, candidates, exactMatches_congr names, caseMatches_congr names]

theorem mem_candidates_of_mem_links (linked : ⟨target, key⟩ ∈ table.links)
    (present : target ∈ sourceKeys) : target ∈ candidates table sourceKeys key := by
  have found : target ∈ exactMatches sourceKeys (table.englishFor key) := by
    simp [exactMatches, NameTable.mem_englishFor, linked, present]
  rw [candidates]
  split
  · rename_i none
    simp [none] at found
  · exact found

/-- A Han key is resolved by its candidates alone. -/
theorem ofKey_eq (table : NameTable) (sourceKeys : List String) (key : String) :
    ofKey table sourceKeys key =
      (pick? (exactMatches sourceKeys (table.englishFor key)).isEmpty
        (candidates table sourceKeys key)).getD .unmapped := by
  have noneExact : exactMatches sourceKeys [] = [] := by simp [exactMatches]
  have noneLoose : caseMatches sourceKeys [] = [] := by simp [caseMatches]
  rw [ofKey, candidates]
  cases table.englishFor key with
  | nil => simp only [noneExact, noneLoose, List.isEmpty_nil, if_true, pick?, Option.getD_none]
  | cons english others =>
    simp only [List.isEmpty_cons, Bool.false_eq_true, if_false]
    rcases exactMatches sourceKeys (english :: others) with _ | ⟨first, _ | ⟨second, rest⟩⟩ <;> rfl

theorem ofKey_eq_found_iff {caseInsensitive : Bool} :
    ofKey table sourceKeys key = .found target caseInsensitive ↔
      candidates table sourceKeys key = [target] ∧
        (exactMatches sourceKeys (table.englishFor key)).isEmpty = caseInsensitive := by
  rw [ofKey_eq]
  rcases candidates table sourceKeys key with _ | ⟨first, _ | ⟨second, rest⟩⟩ <;> simp [pick?]

theorem keyFor_ofKey_of_forall (none : ∀ target, candidates table sourceKeys key ≠ [target]) :
    (ofKey table sourceKeys key).keyFor key = key := by
  cases resolved : ofKey table sourceKeys key with
  | found target caseInsensitive => exact absurd (ofKey_eq_found_iff.1 resolved).1 (none target)
  | ambiguous candidates => rfl
  | unmapped => rfl

end KeyResolution

end NodeLocale
