import Mathlib.Data.List.ReduceOption
import NodeLocale.Proofs.Detection.RepeatedNames
import NodeLocale.Proofs.Detection.ReplacedAssignments

/-!
# Chained assignments

A chained assignment binds one value to several targets, as separate assignments of the value to
one target after the other do. What is extracted tells them apart where two targets with a meaning
stand in one chain, since a chain is taken for one of its targets only: that of the classes before
that of the titles, and that of the types before that of the names. Which value keeps this from
being seen is said here exactly: one that gives no title, one that renames no output that it
declares itself, and one that renames outputs twice as once.
-/

namespace NodeLocale

open Script

namespace Script

/-- One assignment of a value to several targets. What is no bare name binds nothing. -/
def chained (targets : List (Option String)) (value : Expression) :
    List (List String × Expression) :=
  [(targets.reduceOption, value)]

/-- An assignment of a value to each of several targets. -/
def separated (targets : List (Option String)) (value : Expression) :
    List (List String × Expression) :=
  targets.map fun target => (target.toList, value)

end Script

namespace NodeClass

/-! ### Outputs after separated assignments -/

/-- The outputs after separate assignments of a value to some names. -/
def outputsApart (value : Expression) (outputs : FieldMap) (names : List String) : FieldMap :=
  names.foldl (fun outputs name => outputsAfter outputs ([name], value)) outputs

section

variable {value : Expression} {items : List Expression}

theorem foldl_separated (targets : List (Option String)) (value : Expression)
    (outputs : FieldMap) : (separated targets value).foldl outputsAfter outputs =
      outputsApart value outputs targets.reduceOption := by
  induction targets generalizing outputs with
  | nil => rfl
  | cons target rest ih =>
    cases target with
    | none =>
      have unchanged : outputsAfter outputs ([], value) = outputs := by
        rw [outputsAfter]
        split <;> rfl
      rw [List.reduceOption_cons_of_none, ← ih, separated, List.map_cons, List.foldl_cons,
        Option.toList_none, unchanged]
      rfl
    | some name =>
      rw [List.reduceOption_cons_of_some, outputsApart, List.foldl_cons, ← outputsApart, ← ih]
      rfl

theorem outputsApart_of_no_sequence (computed : value.sequence? = none) (outputs : FieldMap)
    (names : List String) : outputsApart value outputs names = outputs := by
  induction names with
  | nil => rfl
  | cons name rest ih =>
    rw [outputsApart, List.foldl_cons, outputsAfter, computed]
    exact ih

variable (written : value.sequence? = some items)

include written

theorem outputsApart_untyped {names : List String} (untyped : outputTypesName ∉ names)
    (outputs : FieldMap) : outputsApart value outputs names =
      (renameOutputs · items)^[names.count outputNamesName] outputs := by
  induction names generalizing outputs with
  | nil => rfl
  | cons name rest ih =>
    rw [List.mem_cons, not_or] at untyped
    rw [outputsApart, List.foldl_cons, ← outputsApart, ih untyped.2]
    have other : outputTypesName ∉ [name] := by simpa using untyped.1
    by_cases named : name = outputNamesName
    · rw [outputsAfter_names written other (by simp [named]), named, List.count_cons_self,
        Function.iterate_succ_apply]
    · rw [outputsAfter_others written other (by simpa using Ne.symm named),
        List.count_cons_of_ne named]

theorem outputsApart_typed {front back : List String} (untyped : outputTypesName ∉ back)
    (outputs : FieldMap) : outputsApart value outputs (front ++ outputTypesName :: back) =
      (renameOutputs · items)^[back.count outputNamesName] (outputsOfTypes items) := by
  rw [outputsApart, List.foldl_append, List.foldl_cons,
    outputsAfter_types written List.mem_cons_self, ← outputsApart,
    outputsApart_untyped written untyped]

end

end NodeClass

/-! ### Values that can be assigned separately -/

/-- Whether a chained assignment of a value to some names cannot be told from separate ones: by
the titles that it gives, by the names that types are for their own outputs, and by the names that
are given to outputs twice. -/
structure Separable (names : List String) (value : Expression) : Prop where
  titles : Registration.classesName ∈ names → Registration.titlesName ∈ names →
    ∀ entries, value = .dict entries → ∀ entry ∈ entries, ∀ key, ¬Registration.Entitles key entry
  types : ∀ front back, names = front ++ NodeClass.outputTypesName :: back →
    NodeClass.outputTypesName ∉ back → NodeClass.outputNamesName ∈ back →
    ∀ items, value.sequence? = some items → ∀ (index : Nat) (text : String),
      items[index]? = some (.string text) → text = NodeClass.outputKey index
  names : NodeClass.outputTypesName ∉ names → 2 ≤ names.count NodeClass.outputNamesName →
    ∀ items, value.sequence? = some items → ∀ outputs,
      NodeClass.renameOutputs (NodeClass.renameOutputs outputs items) items =
        NodeClass.renameOutputs outputs items

/-- A chain in which at most one target has a meaning in either place, and that once, can be
separated. -/
theorem Separable.of_single {names : List String} {value : Expression}
    (tables : Registration.classesName ∉ names ∨ Registration.titlesName ∉ names)
    (outputs : NodeClass.outputTypesName ∉ names ∨ NodeClass.outputNamesName ∉ names)
    (once : names.count NodeClass.outputNamesName ≤ 1) : Separable names value where
  titles := by
    intro classes titles
    rcases tables with absent | absent
    · exact absurd classes absent
    · exact absurd titles absent
  types := by
    rintro front back rfl last named
    rcases outputs with absent | absent
    · exact absurd (by simp) absent
    · exact absurd (by simp [named]) absent
  names := by
    intro untyped twice
    omega

section

variable {targets : List (Option String)} {value : Expression} {names : List String}
  {items : List Expression}

theorem outputsApart_of_typed (separable : Separable names value)
    (written : value.sequence? = some items) (typed : NodeClass.outputTypesName ∈ names)
    (outputs : FieldMap) :
    NodeClass.outputsApart value outputs names = NodeClass.outputsOfTypes items := by
  -- What stands before the last of the types has no influence on the outputs.
  rcases IsLast.exists_iff.2 ⟨_, typed, rfl⟩ with ⟨_, front, back, split, rfl, last⟩
  have untyped : NodeClass.outputTypesName ∉ back := fun member => last _ member rfl
  rw [split, NodeClass.outputsApart_typed written untyped]
  cases count : back.count NodeClass.outputNamesName with
  | zero => rfl
  | succ times =>
    have named : NodeClass.outputNamesName ∈ back := List.count_pos_iff.1 (by omega)
    have own := NodeClass.renameOutputs_types_eq_self_iff.2
      (separable.types front back split untyped named items written)
    rw [NodeClass.iterate_renameOutputs (by rw [own, own]), own]

theorem outputsApart_of_untyped (separable : Separable names value)
    (written : value.sequence? = some items) (untyped : NodeClass.outputTypesName ∉ names)
    (outputs : FieldMap) : NodeClass.outputsApart value outputs names =
      NodeClass.outputsAfter outputs (names, value) := by
  rw [NodeClass.outputsApart_untyped written untyped]
  cases count : names.count NodeClass.outputNamesName with
  | zero =>
    rw [NodeClass.outputsAfter_others written untyped (List.count_eq_zero.1 count)]
    rfl
  | succ times =>
    rw [NodeClass.outputsAfter_names written untyped (List.count_pos_iff.1 (by omega))]
    cases times with
    | zero => rfl
    | succ times =>
      apply NodeClass.iterate_renameOutputs
      exact separable.names untyped (by omega) items written outputs

theorem outputsApart_of_separable (separable : Separable names value) (outputs : FieldMap) :
    NodeClass.outputsApart value outputs names =
      NodeClass.outputsAfter outputs (names, value) := by
  cases written : value.sequence? with
  | none =>
    rw [NodeClass.outputsApart_of_no_sequence written, NodeClass.outputsAfter, written]
  | some items =>
    by_cases typed : NodeClass.outputTypesName ∈ names
    · rw [outputsApart_of_typed separable written typed,
        NodeClass.outputsAfter_types written typed]
    · exact outputsApart_of_untyped separable written typed outputs

/-- A table that each of some targets adds to if it has a certain name. -/
theorem get?_ofList_flatMap_targets (targets : List (Option String)) (name key : String)
    (entries : List (String × String)) :
    (OrderedMap.ofList (targets.flatMap fun target =>
        if target = some name then entries else [])).get? key =
      (OrderedMap.ofList (if some name ∈ targets then entries else [])).get? key := by
  induction targets with
  | nil => simp
  | cons target rest ih =>
    have nothing : (OrderedMap.ofList ([] : List (String × String))).get? key = none := rfl
    rw [List.flatMap_cons, OrderedMap.get?_ofList_append_list, ih]
    by_cases own : target = some name
    · by_cases later : some name ∈ rest <;> simp [own, later, nothing]
    · by_cases later : some name ∈ rest <;> simp [own, Ne.symm own, later, nothing]

theorem classEntries_separated (targets : List (Option String)) (value : Expression) :
    (separated targets value).flatMap Registration.classEntries = targets.flatMap fun target =>
      if target = some Registration.classesName then
        (value.dict?.getD []).filterMap Registration.registeredClass?
      else [] := by
  simp [separated, List.flatMap_map, Registration.classEntries]

theorem titleEntries_separated (targets : List (Option String)) (value : Expression) :
    (separated targets value).flatMap Registration.titleEntries = targets.flatMap fun target =>
      if target = some Registration.titlesName then
        (value.dict?.getD []).filterMap Registration.registeredTitle?
      else [] := by
  rw [separated, List.flatMap_map]
  apply List.flatMap_congr
  intro target _
  by_cases own : target = some Registration.titlesName
  · simp [Registration.titleEntries, own, Registration.titlesName, Registration.classesName]
  · simp [Registration.titleEntries, own]

theorem titles_eq_nil_iff {value : Expression} :
    (value.dict?.getD []).filterMap Registration.registeredTitle? = [] ↔
      ∀ entries, value = .dict entries → ∀ entry ∈ entries, ∀ key,
        ¬Registration.Entitles key entry := by
  have untitled (entry : Expression × Expression) : Registration.registeredTitle? entry = none ↔
      ∀ key, ¬Registration.Entitles key entry := by
    rw [Option.eq_none_iff_forall_ne_some]
    simp only [Registration.entitles_iff]
    grind
  simp only [List.filterMap_eq_nil_iff, untitled]
  cases value with
  | dict entries => simp [Expression.dict?]
  | string | name | tuple | list | other => simp [Expression.dict?]

theorem interchangeable_of_separable (separable : Separable targets.reduceOption value) :
    Interchangeable (chained targets value) (separated targets value) where
  classes := by
    intro name
    rw [classEntries_separated, get?_ofList_flatMap_targets]
    simp [chained, Registration.classEntries, List.reduceOption_mem_iff]
  titles := by
    intro key
    rw [titleEntries_separated, get?_ofList_flatMap_targets]
    by_cases given : some Registration.titlesName ∈ targets
    · by_cases both : some Registration.classesName ∈ targets
      · have untitled := titles_eq_nil_iff.2 (separable.titles
          (List.reduceOption_mem_iff.2 both) (List.reduceOption_mem_iff.2 given))
        simp [chained, Registration.titleEntries, untitled]
      · simp [chained, Registration.titleEntries, List.reduceOption_mem_iff, given, both]
    · simp [chained, Registration.titleEntries, List.reduceOption_mem_iff, given]
  outputs := by
    intro outputs
    rw [NodeClass.foldl_separated, outputsApart_of_separable separable]
    rfl
  declares := by
    rw [Bool.eq_iff_iff]
    simp [chained, separated, assigning, NodeClass.bindsSequence, Statement.assignment?,
      List.reduceOption_mem_iff]

end

/-! ### Programs that tell a chain apart -/

section

variable {old new : List (List String × Expression)}

theorem replaces_between (old new : List (List String × Expression))
    (front rest : List Statement) : Replaces old new (front ++ (assigning old ++ rest))
      (front ++ (assigning new ++ rest)) := by
  induction front with
  | nil => exact .here rest
  | cons statement front ih => exact .later statement ih

theorem Detected.get?_nodes_of_single {tables : TypeTables} {source : Option Path}
    {program : Program} {definition : ClassDef} {key : String}
    (single : nodeClasses program = [definition])
    (taken : (Registration.ofProgram program).keyOf definition.name = key) :
    (nodes tables source program).get? key = some (NodeClass.schema tables
      ((Registration.ofProgram program).titleOf key) source definition) := by
  rw [nodes, single, List.map_singleton, entryOf, taken]
  exact OrderedMap.get?_ofList_singleton _ _

/-- The keys of the outputs of a class that stands alone. -/
theorem keys_outputs_alone (tables : TypeTables) (source : Option Path) (name : String)
    (line : Nat) (body : List Statement) :
    ((Detected.nodes tables source ⟨[.classDef name line body]⟩).get? name).map
        (fun schema => schema.outputs.keys) =
      if NodeClass.isNode ⟨name, line, body⟩ then some (NodeClass.outputsThrough ∅ body).keys
      else none := by
  have alone : Detected.nodeClasses ⟨[.classDef name line body]⟩ =
      if NodeClass.isNode ⟨name, line, body⟩ then [⟨name, line, body⟩] else [] := by
    simp [Detected.nodeClasses, Program.classes, Program.statements, scope, Statement.opened,
      Statement.class?, List.filter_cons]
  have unregistered : (Registration.ofProgram ⟨[.classDef name line body]⟩).keyOf name = name := rfl
  by_cases node : NodeClass.isNode ⟨name, line, body⟩ = true
  · rw [if_pos node] at alone ⊢
    rw [Detected.get?_nodes_of_single alone unregistered]
    exact congrArg some (OrderedMap.keys_mapValues _ _)
  · rw [if_neg node] at alone ⊢
    rw [Detected.nodes, alone]
    rfl

theorem isNode_of_binds {name : String} {line : Nat} {body : List Statement}
    {typed : Statement} {types : List Expression} (member : typed ∈ body)
    (binds : NodeClass.Binds NodeClass.outputTypesName types typed) :
    NodeClass.isNode ⟨name, line, body⟩ = true := by
  rcases NodeClass.binds_iff.1 binds with ⟨targets, value, rfl, bound, written⟩
  have declares : NodeClass.hasSequence NodeClass.outputTypesName ⟨name, line, body⟩ = true := by
    apply List.any_eq_true.2
    refine ⟨_, member, ?_⟩
    simp [NodeClass.bindsSequence, Statement.assignment?, bound, written]
  rw [NodeClass.isNode, declares, Bool.or_true]

/-- Declarations of given outputs. -/
def declaring (outputs : FieldMap) : List Statement :=
  [.assign [NodeClass.outputTypesName] (.tuple (outputs.values.map .string)),
    .assign [NodeClass.outputNamesName] (.tuple (outputs.keys.map .string))]

theorem outputsThrough_declaring (outputs : FieldMap) :
    NodeClass.outputsThrough ∅ (declaring outputs) = outputs := by
  have declared : NodeClass.outputsThrough ∅ (declaring outputs) = NodeClass.renameOutputs
      (NodeClass.outputsOfTypes (outputs.values.map .string)) (outputs.keys.map .string) := rfl
  rw [declared]
  by_cases given : outputs.keys.map Expression.string = []
  · apply OrderedMap.ext
    have empty : outputs.entries = [] := by simpa [OrderedMap.keys] using given
    simp [OrderedMap.keys, OrderedMap.values, empty, NodeClass.renameOutputs,
      NodeClass.entries_outputsOfTypes]
  · rw [NodeClass.renameOutputs_of_given given, NodeClass.entries_outputsOfTypes]
    conv_rhs => rw [← OrderedMap.ofList_entries outputs]
    congr 1
    apply List.ext_getElem?
    intro index
    cases listed : outputs.entries[index]? with
    | none => simp [NodeClass.underNames, List.getElem?_zipWith, OrderedMap.keys, listed]
    | some entry =>
      simp [NodeClass.underNames, List.getElem?_zipWith, OrderedMap.keys, OrderedMap.values, listed,
        NodeClass.renamedKey, Expression.string?, Expression.label]

/-- A class whose key is given a title both before and in some assignments. -/
def entitling (key title : String) (assignments : List (List String × Expression)) :
    List Statement :=
  .assign [Registration.titlesName] (.dict [(.string key, .string title)]) ::
    (assigning assignments ++
      [.assign [Registration.classesName] (.dict [(.string key, .name "Node")]),
        .classDef "Node" 1 [.assign [NodeClass.outputTypesName] (.tuple [])]])

theorem nodeClasses_entitling (key title : String)
    (assignments : List (List String × Expression)) :
    Detected.nodeClasses ⟨entitling key title assignments⟩ =
      [⟨"Node", 1, [.assign [NodeClass.outputTypesName] (.tuple [])]⟩] := by
  have node : NodeClass.isNode ⟨"Node", 1, [.assign [NodeClass.outputTypesName] (.tuple [])]⟩ =
      true := by decide
  simp [Detected.nodeClasses, Program.classes, Program.statements, entitling, scope,
    scope_append, Statement.opened, Statement.class?, List.filterMap_cons, node]

theorem assignments_entitling (key title : String)
    (assignments : List (List String × Expression)) :
    Program.assignments ⟨entitling key title assignments⟩ =
      ([Registration.titlesName], .dict [(.string key, .string title)]) :: (assignments ++
        [([Registration.classesName], .dict [(.string key, .name "Node")])]) := by
  simp [Program.assignments, Program.statements, entitling, scope, scope_append,
    Statement.opened, Statement.assignment?, List.filterMap_cons]

theorem keyOf_entitling (key title : String) (assignments : List (List String × Expression)) :
    (Registration.ofProgram ⟨entitling key title assignments⟩).keyOf "Node" = key := by
  have own : Registration.classEntries
      ([Registration.classesName], .dict [(.string key, .name "Node")]) = [("Node", key)] := rfl
  simp [Registration.keyOf, Registration.ofProgram, assignments_entitling, own,
    OrderedMap.get?_ofList_append_list, OrderedMap.get?_ofList_singleton]

theorem titleOf_entitling (key title : String) (assignments : List (List String × Expression)) :
    (Registration.ofProgram ⟨entitling key title assignments⟩).titleOf key =
      ((OrderedMap.ofList (assignments.flatMap Registration.titleEntries)).get? key).getD
        title := by
  have before : Registration.titleEntries
      ([Registration.titlesName], .dict [(.string key, .string title)]) = [(key, title)] := rfl
  have behind : Registration.titleEntries
      ([Registration.classesName], .dict [(.string key, .name "Node")]) = [] := rfl
  simp only [Registration.titleOf, Registration.ofProgram, assignments_entitling,
    List.flatMap_cons, List.flatMap_append, List.flatMap_nil, List.append_nil, before, behind,
    OrderedMap.get?_ofList_append_list, OrderedMap.get?_ofList_singleton]
  cases (OrderedMap.ofList (assignments.flatMap Registration.titleEntries)).get? key <;> rfl

theorem title_entitling (tables : TypeTables) (source : Option Path) (key title : String)
    (assignments : List (List String × Expression)) :
    ((Detected.nodes tables source ⟨entitling key title assignments⟩).get? key).map
        NodeSchema.title =
      some (((OrderedMap.ofList (assignments.flatMap Registration.titleEntries)).get? key).getD
        title) := by
  rw [Detected.get?_nodes_of_single (nodeClasses_entitling key title assignments)
    (keyOf_entitling key title assignments), titleOf_entitling]
  rfl

/-- Where the assignments of a node class can be replaced, its outputs have the same keys. -/
theorem keys_outputsThrough_eq {tables : TypeTables} {source : Option Path}
    (same : ∀ body result, Replaces old new body result →
      Detected.nodes tables source ⟨body⟩ = Detected.nodes tables source ⟨result⟩)
    (front : List Statement) {typed : Statement} {types : List Expression}
    (member : typed ∈ front ++ assigning old)
    (binds : NodeClass.Binds NodeClass.outputTypesName types typed) :
    (NodeClass.outputsThrough ∅ (front ++ assigning old)).keys =
      (NodeClass.outputsThrough ∅ (front ++ assigning new)).keys := by
  have replaces : Replaces old new [.classDef "Node" 1 (front ++ assigning old)]
      [.classDef "Node" 1 (front ++ assigning new)] := by
    apply Replaces.classDef
    simpa using replaces_between old new front []
  have keys := keys_outputs_alone tables source "Node" 1 (front ++ assigning old)
  rw [same _ _ replaces, keys_outputs_alone, isNode_of_binds member binds, if_pos rfl] at keys
  split at keys
  · exact (Option.some.inj keys).symm
  · simp at keys

end

section

variable {targets : List (Option String)} {value : Expression} {tables : TypeTables}
  {source : Option Path}
  (same : ∀ body result, Replaces (chained targets value) (separated targets value) body result →
    Detected.nodes tables source ⟨body⟩ = Detected.nodes tables source ⟨result⟩)

include same

theorem separable_types {front back : List String}
    (split : targets.reduceOption = front ++ NodeClass.outputTypesName :: back)
    (last : NodeClass.outputTypesName ∉ back) (named : NodeClass.outputNamesName ∈ back)
    {items : List Expression} (written : value.sequence? = some items) (index : Nat)
    (text : String) (listed : items[index]? = some (.string text)) :
    text = NodeClass.outputKey index := by
  have typed : NodeClass.outputTypesName ∈ targets.reduceOption := by simp [split]
  have binds : NodeClass.Binds NodeClass.outputTypesName items
      (.assign targets.reduceOption value) :=
    NodeClass.binds_iff.2 ⟨_, _, rfl, typed, written⟩
  have together : NodeClass.outputsThrough ∅ (assigning (chained targets value)) =
      NodeClass.outputsOfTypes items := NodeClass.outputsThrough_types binds
  have keys := keys_outputsThrough_eq same [] (by simp [chained, assigning]) binds
  rcases Nat.exists_eq_add_one.2 (List.count_pos_iff.2 named) with ⟨times, count⟩
  rw [List.nil_append, List.nil_append, together, NodeClass.outputsThrough_assigning,
    NodeClass.foldl_separated, split, NodeClass.outputsApart_typed written last, count] at keys
  have own := NodeClass.renameOutputs_eq_self_of_iterate keys.symm
  exact NodeClass.renameOutputs_types_eq_self_iff.1 own index text listed

theorem separable_names (untyped : NodeClass.outputTypesName ∉ targets.reduceOption)
    (twice : 2 ≤ targets.reduceOption.count NodeClass.outputNamesName)
    {items : List Expression} (written : value.sequence? = some items) (outputs : FieldMap) :
    NodeClass.renameOutputs (NodeClass.renameOutputs outputs items) items =
      NodeClass.renameOutputs outputs items := by
  have named : NodeClass.outputNamesName ∈ targets.reduceOption :=
    List.count_pos_iff.1 (by omega)
  have binds : NodeClass.Binds NodeClass.outputTypesName (outputs.values.map .string)
      (.assign [NodeClass.outputTypesName] (.tuple (outputs.values.map .string))) :=
    .tuple List.mem_cons_self
  have keys := keys_outputsThrough_eq same (declaring outputs) (by simp [declaring]) binds
  have together : (chained targets value).foldl NodeClass.outputsAfter outputs =
      NodeClass.renameOutputs outputs items :=
    NodeClass.outputsAfter_names written untyped named outputs
  rw [NodeClass.outputsThrough_append, NodeClass.outputsThrough_append, outputsThrough_declaring,
    NodeClass.outputsThrough_assigning, NodeClass.outputsThrough_assigning,
    NodeClass.foldl_separated, NodeClass.outputsApart_untyped written untyped] at keys
  rcases Nat.exists_eq_add_of_le' twice with ⟨times, count⟩
  rw [together, count, Function.iterate_succ_apply] at keys
  exact NodeClass.renameOutputs_eq_self_of_iterate keys.symm

theorem separable_titles (classes : Registration.classesName ∈ targets.reduceOption)
    (titles : Registration.titlesName ∈ targets.reduceOption)
    {entries : List (Expression × Expression)} (written : value = .dict entries)
    (entry : Expression × Expression) (member : entry ∈ entries) (key : String) :
    ¬Registration.Entitles key entry := by
  rintro ⟨title⟩
  subst written
  have given : (key, title) ∈ entries.filterMap Registration.registeredTitle? :=
    List.mem_filterMap.2 ⟨_, member, rfl⟩
  rcases OrderedMap.mem_keys_iff_exists.1
    (OrderedMap.mem_keys_ofList.2 (List.mem_map_of_mem given)) with ⟨last, found⟩
  -- The key has another title already, which it keeps if the chain does not give it one.
  have replaces : Replaces (chained targets (.dict entries)) (separated targets (.dict entries))
      (entitling key (last ++ "?") (chained targets (.dict entries)))
      (entitling key (last ++ "?") (separated targets (.dict entries))) :=
    .later _ (.here _)
  have title := title_entitling tables source key (last ++ "?") (chained targets (.dict entries))
  have silent : (chained targets (.dict entries)).flatMap Registration.titleEntries = [] := by
    simp [chained, Registration.titleEntries, classes]
  rw [same _ _ replaces, title_entitling, titleEntries_separated, get?_ofList_flatMap_targets,
    if_pos (List.reduceOption_mem_iff.1 titles), silent] at title
  have absent : (OrderedMap.ofList ([] : List (String × String))).get? key = none := rfl
  have same : last = last ++ "?" := by simpa [Expression.dict?, found, absent] using title
  simpa using congrArg String.length same

end

namespace Detected

variable {tables : TypeTables} {source : Option Path} {targets : List (Option String)}
  {value : Expression}

/-- To separate a chained assignment changes no program if and only if its value does not tell the
chain from separate assignments. -/
theorem nodes_separated_iff :
    (∀ body result, Replaces (chained targets value) (separated targets value) body result →
        nodes tables source ⟨body⟩ = nodes tables source ⟨result⟩) ↔
      Separable targets.reduceOption value := by
  constructor
  · intro same
    constructor
    case titles =>
      intro classes titles entries written
      exact separable_titles same classes titles written
    case types =>
      intro front back split last named items written
      exact separable_types same split last named written
    case names =>
      intro untyped twice items written
      exact separable_names same untyped twice written
  · intro separable body result replaces
    exact replaces.nodes_eq (interchangeable_of_separable separable)

/-- A class that takes the types of its outputs for their names. -/
def selfNaming (bind : List (Option String) → Expression → List (List String × Expression)) :
    List Statement :=
  [.classDef "Split" 1 (assigning (bind [some "RETURN_TYPES", some "RETURN_NAMES"]
    (.tuple [.string "IMAGE", .string "MASK"])))]

/-- In a chain the names of the outputs get lost. -/
theorem outputs_unnamed_of_selfNaming :
    Replaces
        (chained [some "RETURN_TYPES", some "RETURN_NAMES"]
          (.tuple [.string "IMAGE", .string "MASK"]))
        (separated [some "RETURN_TYPES", some "RETURN_NAMES"]
          (.tuple [.string "IMAGE", .string "MASK"]))
        (selfNaming chained) (selfNaming separated) ∧
      ((nodes (.ofConfig {}) none ⟨selfNaming chained⟩).get? "Split").map
          (fun schema => schema.outputs.entries) =
        some [("output_0", "IMAGE"), ("output_1", "MASK")] ∧
      ((nodes (.ofConfig {}) none ⟨selfNaming separated⟩).get? "Split").map
          (fun schema => schema.outputs.entries) =
        some [("IMAGE", "IMAGE"), ("MASK", "MASK")] :=
  ⟨.classDef _ _ _ (.here []), by decide +kernel, by decide +kernel⟩

end Detected

end NodeLocale
