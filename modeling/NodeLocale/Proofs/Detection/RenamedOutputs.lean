import Mathlib.Data.List.Nodup
import NodeLocale.Proofs.Basic
import NodeLocale.Proofs.Detection.Identity
import NodeLocale.Proofs.Detection.TakenKeys

/-!
# Renamed outputs

The types of its outputs give a class one output each, and a list of names behind them renames
these one by one, as far as both lists go. The outputs are a map, so outputs that come by the same
key are one, which stands where the first of them did and has the type of the last. Every output is
there if and only if no name is given twice and none is the key of an output without a name.
-/

namespace NodeLocale

open Script

namespace NodeClass

/-! ### Declarations of outputs -/

/-- Whether a statement binds a tuple or a list with some items to a name. -/
inductive Binds (name : String) (items : List Expression) : Statement → Prop
  | tuple {targets : List String} :
      name ∈ targets → Binds name items (.assign targets (.tuple items))
  | list {targets : List String} :
      name ∈ targets → Binds name items (.assign targets (.list items))

/-- Whether one list of names stands behind the last types of outputs in the body of a class. -/
inductive NamesOnce (types names : List Expression) : List Statement → Prop
  | behind {front middle back : List Statement} {typed named : Statement} :
      Binds outputTypesName types typed →
      (∀ later ∈ middle ++ named :: back, ∀ items, ¬Binds outputTypesName items later) →
      Binds outputNamesName names named →
      (∀ later ∈ middle ++ back, ∀ items, ¬Binds outputNamesName items later) →
      NamesOnce types names (front ++ typed :: (middle ++ named :: back))

/-- The outputs after some statements in the body of a class. -/
def outputsThrough (outputs : FieldMap) (statements : List Statement) : FieldMap :=
  (statements.filterMap Statement.assignment?).foldl outputsAfter outputs

section

variable {outputs : FieldMap} {statement : Statement} {name : String}
  {items types names : List Expression}

theorem binds_iff : Binds name items statement ↔ ∃ targets value,
    statement = .assign targets value ∧ name ∈ targets ∧ value.sequence? = some items := by
  constructor
  · intro binds
    cases binds with
    | tuple bound => exact ⟨_, _, rfl, bound, rfl⟩
    | list bound => exact ⟨_, _, rfl, bound, rfl⟩
  · rintro ⟨targets, value, rfl, bound, written⟩
    cases value with
    | tuple own =>
      rcases Option.some.inj written with rfl
      exact .tuple bound
    | list own =>
      rcases Option.some.inj written with rfl
      exact .list bound
    | string | name | dict | other => exact absurd written (by simp [Expression.sequence?])

theorem outputsThrough_append (outputs : FieldMap) (front back : List Statement) :
    outputsThrough outputs (front ++ back) =
      outputsThrough (outputsThrough outputs front) back := by
  rw [outputsThrough, List.filterMap_append, List.foldl_append]
  rfl

theorem outputsThrough_cons (outputs : FieldMap) (statement : Statement)
    (rest : List Statement) : outputsThrough outputs (statement :: rest) =
      outputsThrough (outputsThrough outputs [statement]) rest :=
  outputsThrough_append outputs [statement] rest

section

variable {targets : List String} {value : Expression} (written : value.sequence? = some items)

include written

theorem outputsAfter_types (typed : outputTypesName ∈ targets) (outputs : FieldMap) :
    outputsAfter outputs (targets, value) = outputsOfTypes items := by
  simp [outputsAfter, written, typed]

theorem outputsAfter_names (untyped : outputTypesName ∉ targets)
    (named : outputNamesName ∈ targets) (outputs : FieldMap) :
    outputsAfter outputs (targets, value) = renameOutputs outputs items := by
  simp [outputsAfter, written, untyped, named]

theorem outputsAfter_others (untyped : outputTypesName ∉ targets)
    (unnamed : outputNamesName ∉ targets) (outputs : FieldMap) :
    outputsAfter outputs (targets, value) = outputs := by
  simp [outputsAfter, written, untyped, unnamed]

end

theorem outputsThrough_types (typed : Binds outputTypesName types statement) :
    outputsThrough outputs [statement] = outputsOfTypes types := by
  rcases binds_iff.1 typed with ⟨targets, value, rfl, bound, written⟩
  exact outputsAfter_types written bound outputs

theorem outputsThrough_names (untyped : ∀ items, ¬Binds outputTypesName items statement)
    (named : Binds outputNamesName names statement) :
    outputsThrough outputs [statement] = renameOutputs outputs names := by
  rcases binds_iff.1 named with ⟨targets, value, rfl, bound, written⟩
  have noTypes : outputTypesName ∉ targets :=
    fun typed => untyped names (binds_iff.2 ⟨targets, value, rfl, typed, written⟩)
  exact outputsAfter_names written noTypes bound outputs

theorem outputsThrough_silent (untyped : ∀ items, ¬Binds outputTypesName items statement)
    (unnamed : ∀ items, ¬Binds outputNamesName items statement) :
    outputsThrough outputs [statement] = outputs := by
  cases statement with
  | assign targets value =>
    cases written : value.sequence? with
    | none => simp [outputsThrough, Statement.assignment?, outputsAfter, written]
    | some items =>
      have noTypes : outputTypesName ∉ targets :=
        fun typed => untyped items (binds_iff.2 ⟨targets, value, rfl, typed, written⟩)
      have noNames : outputNamesName ∉ targets :=
        fun named => unnamed items (binds_iff.2 ⟨targets, value, rfl, named, written⟩)
      exact outputsAfter_others written noTypes noNames outputs
  | classDef | functionDef | returns | block | other => rfl

theorem outputsThrough_of_silent {statements : List Statement}
    (untyped : ∀ statement ∈ statements, ∀ items, ¬Binds outputTypesName items statement)
    (unnamed : ∀ statement ∈ statements, ∀ items, ¬Binds outputNamesName items statement) :
    outputsThrough outputs statements = outputs := by
  induction statements with
  | nil => rfl
  | cons statement rest ih =>
    rw [List.forall_mem_cons] at untyped unnamed
    rw [outputsThrough_cons, outputsThrough_silent untyped.1 unnamed.1, ih untyped.2 unnamed.2]

theorem outputs_of_namesOnce {definition : ClassDef}
    (once : NamesOnce types names definition.body) :
    NodeClass.outputs definition = renameOutputs (outputsOfTypes types) names := by
  have whole : NodeClass.outputs definition = outputsThrough ∅ definition.body := rfl
  rw [whole]
  generalize definition.body = body at once
  cases once with
  | behind typed last named only =>
    rw [List.forall_mem_append, List.forall_mem_cons] at last
    rw [List.forall_mem_append] at only
    rw [outputsThrough_append, outputsThrough_cons, outputsThrough_types typed,
      outputsThrough_append, outputsThrough_of_silent last.1 only.1, outputsThrough_cons,
      outputsThrough_names last.2.1 named, outputsThrough_of_silent last.2.2 only.2]

end

/-! ### Keys of outputs -/

theorem outputKey_injective {left right : Nat} (same : outputKey left = outputKey right) :
    left = right := by
  apply Text.numbered_injective
  rw [String.append_empty, String.append_empty]
  exact same

/-- Whether no name is given twice and none is the key of an output without a name. -/
structure DistinctNames (names : List Expression) : Prop where
  named : ∀ (first second : Nat) (text : String), names[first]? = some (.string text) →
    names[second]? = some (.string text) → first = second
  unnamed : ∀ (first second : Nat) (name : Expression),
    names[first]? = some (.string (outputKey second)) → names[second]? = some name →
      ∃ text, name = .string text

/-- The keys of outputs by their names. -/
def keysOf (names : List Expression) : List String :=
  names.mapIdx fun index name => renamedKey name (outputKey index)

theorem getElem?_keysOf_iff {names : List Expression} {index : Nat} {key : String} :
    (keysOf names)[index]? = some key ↔ names[index]? = some (.string key) ∨
      outputKey index = key ∧ ∃ name, names[index]? = some name ∧ ∀ text, name ≠ .string text := by
  cases named : names[index]? with
  | none => simp [keysOf, named]
  | some name =>
    cases name with
    | string text => simp [keysOf, named, renamedKey, Expression.string?]
    | name | tuple | list | dict | other =>
      simp [keysOf, named, renamedKey, Expression.string?]

theorem nodup_keysOf_iff {names : List Expression} :
    (keysOf names).Nodup ↔ DistinctNames names := by
  constructor
  · intro distinct
    have same {first second : Nat} {key : String} (one : (keysOf names)[first]? = some key)
        (two : (keysOf names)[second]? = some key) : first = second := by
      rcases List.getElem?_eq_some_iff.1 one with ⟨within, -⟩
      exact (List.getElem?_inj within distinct).1 (one.trans two.symm)
    constructor
    case named =>
      intro first second text one two
      exact same (getElem?_keysOf_iff.2 (.inl one)) (getElem?_keysOf_iff.2 (.inl two))
    case unnamed =>
      intro first second name one two
      by_contra! unnamed
      rcases same (getElem?_keysOf_iff.2 (.inl one))
        (getElem?_keysOf_iff.2 (.inr ⟨rfl, name, two, unnamed⟩)) with rfl
      exact unnamed _ (Option.some.inj (two.symm.trans one))
  · intro distinct
    rw [List.nodup_iff_getElem?_ne_getElem?]
    intro first second before within same
    have two := List.getElem?_eq_getElem within
    rcases getElem?_keysOf_iff.1 (same.trans two) with one | ⟨own, name, one, unnamed⟩
    · rcases getElem?_keysOf_iff.1 two with two | ⟨otherOwn, other, two, otherUnnamed⟩
      · exact Nat.ne_of_lt before (distinct.named first second _ one two)
      · rw [← otherOwn] at one
        rcases distinct.unnamed first second other one two with ⟨text, written⟩
        exact otherUnnamed text written
    · rcases getElem?_keysOf_iff.1 two with two | ⟨otherOwn, -⟩
      · rw [← own] at two
        rcases distinct.unnamed second first name two one with ⟨text, written⟩
        exact unnamed text written
      · exact Nat.ne_of_lt before (outputKey_injective (own.trans otherOwn.symm))

theorem entries_outputsOfTypes (types : List Expression) : (outputsOfTypes types).entries =
    types.mapIdx fun index type => (outputKey index, type.label) := by
  apply Entries.collect_of_nodup
  rw [List.nodup_iff_getElem?_ne_getElem?]
  intro first second before within same
  rw [List.length_map, List.length_mapIdx] at within
  have sameKey : outputKey first = outputKey second := by
    simpa [within, Nat.lt_trans before within] using same
  exact Nat.ne_of_lt before (outputKey_injective sameKey)

/-! ### Entries under names -/

/-- Entries under some names, as far as both lists go. -/
def underNames (names : List Expression) (entries : List (String × String)) :
    List (String × String) :=
  names.zipWith (fun name entry => (renamedKey name entry.1, entry.2)) entries

section

variable {types names : List Expression} {entries : List (String × String)}

theorem renameOutputs_of_given (given : names ≠ []) (outputs : FieldMap) :
    renameOutputs outputs names = .ofList (underNames names outputs.entries) :=
  if_neg (by simpa using given)

theorem length_underNames (names : List Expression) (entries : List (String × String)) :
    (underNames names entries).length = min names.length entries.length :=
  List.length_zipWith

theorem getElem?_underNames {index : Nat} {name : Expression} {entry : String × String}
    (named : names[index]? = some name) (listed : entries[index]? = some entry) :
    (underNames names entries)[index]? = some (renamedKey name entry.1, entry.2) := by
  simp [underNames, List.getElem?_zipWith, named, listed]

theorem keys_underNames (types names : List Expression) :
    (underNames names (outputsOfTypes types).entries).map Prod.fst =
      keysOf (names.take types.length) := by
  apply List.ext_getElem?
  intro index
  rw [entries_outputsOfTypes, underNames, keysOf, List.getElem?_map, List.getElem?_zipWith,
    List.getElem?_mapIdx, List.getElem?_mapIdx, List.getElem?_take]
  by_cases within : index < types.length
  · rw [List.getElem?_eq_getElem within, if_pos within]
    cases names[index]? <;> rfl
  · rw [List.getElem?_eq_none (Nat.le_of_not_lt within), if_neg within]
    cases names[index]? <;> rfl

/-! ### Outputs of a schema -/

/-- Whether outputs are those of some types under some names, as far as both lists go, with the key
in place of a label that names a primitive type. -/
structure KeepsAll (primitive : List String) (types names : List Expression) (outputs : FieldMap) :
    Prop where
  size : outputs.size = min types.length names.length
  entry : ∀ (index : Nat) (name type : Expression), names[index]? = some name →
    types[index]? = some type → outputs.entries[index]? =
      some (renamedKey name (outputKey index),
        NodeSchema.identityLabel primitive (renamedKey name (outputKey index)) type.label)

theorem keepsAll_iff (primitive : List String) (given : names ≠ []) :
    KeepsAll primitive types names ((renameOutputs (outputsOfTypes types) names).mapValues
        (NodeSchema.identityLabel primitive)) ↔ DistinctNames (names.take types.length) := by
  rw [← nodup_keysOf_iff, ← keys_underNames, renameOutputs_of_given given]
  have length : (underNames names (outputsOfTypes types).entries).length =
      min types.length names.length := by
    rw [length_underNames, entries_outputsOfTypes, List.length_mapIdx, Nat.min_comm]
  constructor
  · intro keeps
    apply OrderedMap.size_ofList_eq_iff.1
    rw [length, ← keeps.size]
    simp [OrderedMap.size, OrderedMap.mapValues]
  · intro distinct
    have entries : (OrderedMap.ofList (underNames names (outputsOfTypes types).entries)).entries =
        underNames names (outputsOfTypes types).entries := Entries.collect_of_nodup distinct
    constructor
    case size =>
      simp [OrderedMap.size, OrderedMap.mapValues, entries, length]
    case entry =>
      intro index name type named typed
      have listed : (outputsOfTypes types).entries[index]? =
          some (outputKey index, type.label) := by
        simp [entries_outputsOfTypes, typed]
      simp [OrderedMap.mapValues, entries, getElem?_underNames named listed]

end

end NodeClass

namespace Detected

variable {tables : TypeTables} {source : Option Path} {program : Program}
  {opened : List Statement} {key : String} {definition : ClassDef} {types names : List Expression}

/-- The node of a class that names its outputs once has all of them, with their names and types, if
and only if those that are named have different keys. -/
theorem node_keepsAll_iff (opens : Opens program.body opened)
    (last : IsLast (Contends opened key) definition (opened.filterMap Statement.class?))
    (once : NodeClass.NamesOnce types names definition.body) (given : names ≠ []) :
    (∃ schema, (nodes tables source program).get? key = some schema ∧
        NodeClass.KeepsAll tables.primitive types names schema.outputs) ↔
      NodeClass.DistinctNames (names.take types.length) := by
  rw [← NodeClass.keepsAll_iff tables.primitive given, ← NodeClass.outputs_of_namesOnce once]
  constructor
  · rintro ⟨schema, found, keeps⟩
    rcases (get?_nodes_iff opens).1 found with ⟨other, also, rfl⟩
    rw [last.unique also]
    exact keeps
  · intro keeps
    exact ⟨_, (get?_nodes_iff opens).2 ⟨definition, last, rfl⟩, keeps⟩

/-- A class with three types of outputs, and with names both before and behind them. -/
def splitting (names : List Expression) : ClassDef where
  name := "Split"
  line := 1
  body :=
    [.assign ["RETURN_NAMES"] (.list [.string "early"]),
      .assign ["RETURN_TYPES"] (.tuple [.name "IMAGE", .string "MASK", .string "STRING"]), .other,
      .assign ["RETURN_NAMES"] (.tuple names)]

def splitter (names : List Expression) : Program where
  body := [.block [.classDef "Split" 1 (splitting names).body]]

theorem isLast_splitting (names : List Expression) :
    IsLast (Contends (splitter names).statements "Split") (splitting names)
      ((splitter names).statements.filterMap Statement.class?) :=
  ⟨[], [], rfl, ⟨rfl, .unregistered fun _ member => nomatch member⟩, by simp⟩

theorem namesOnce_splitting (names : List Expression) :
    NodeClass.NamesOnce [.name "IMAGE", .string "MASK", .string "STRING"] names
      (splitting names).body := by
  refine @NodeClass.NamesOnce.behind _ _ [_] [.other] [] _ _ (.tuple List.mem_cons_self) ?_
    (.tuple List.mem_cons_self) ?_
  · simp [NodeClass.binds_iff, NodeClass.outputTypesName]
  · simp [NodeClass.binds_iff]

theorem node_keepsAll_of_splitting :
    ∃ schema, (nodes (.ofConfig {}) none (splitter [.string "img", .other "NAME"])).get? "Split" =
        some schema ∧
      NodeClass.KeepsAll (TypeTables.ofConfig {}).primitive
        [.name "IMAGE", .string "MASK", .string "STRING"] [.string "img", .other "NAME"]
        schema.outputs := by
  refine (node_keepsAll_iff (opens_scope _) (isLast_splitting _) (namesOnce_splitting _)
    (by simp)).2 ?_
  rw [← NodeClass.nodup_keysOf_iff]
  decide +kernel

/-- Two outputs with one name become one, and so do an output without a name and one that is given
its key. -/
theorem outputs_lost_of_splitting :
    NodeClass.NamesOnce [.name "IMAGE", .string "MASK", .string "STRING"]
        [.string "out", .string "out"] (splitting [.string "out", .string "out"]).body ∧
      ((nodes (.ofConfig {}) none (splitter [.string "out", .string "out"])).get? "Split").map
        (fun schema => schema.outputs.entries) = some [("out", "MASK")] ∧
      NodeClass.NamesOnce [.name "IMAGE", .string "MASK", .string "STRING"]
        [.string "output_1", .other "NAME"]
        (splitting [.string "output_1", .other "NAME"]).body ∧
      ((nodes (.ofConfig {}) none (splitter [.string "output_1", .other "NAME"])).get? "Split").map
        (fun schema => schema.outputs.entries) = some [("output_1", "MASK")] :=
  ⟨namesOnce_splitting _, by decide +kernel, namesOnce_splitting _, by decide +kernel⟩

end Detected

end NodeLocale
